import CertPress.Service.Certificates
import CertPress.Service.Files
import CertPress.Service.Route

/-!
# The service

The table of routes and the answers to requests.  Besides its own paths the
service serves the directories of images and of decorations, each under its
mount.
-/

namespace CertPress.Service

open Settings (RenderSettings)
open Record (Template)

/-- What a path leads to. -/
inductive Endpoint where
  | health
  | backends
  | templates
  | template
  | dropTemplates
  | dropTemplate
  | preview
  | pdf
  | image
  | generate
  | files (mount : String) (directory : FilePath)
  deriving DecidableEq, Repr, Inhabited

/-- The version of the service. -/
def version : String := "0.4.0"

/-- The service's own routes. -/
def ownRoutes : List (Route Endpoint) :=
  [⟨Route.literals "/health", .health⟩, ⟨Route.literals "/backends", .backends⟩,
   ⟨Route.literals "/templates", .templates⟩,
   ⟨Route.literals "/templates/invalidate", .dropTemplates⟩,
   ⟨Route.literals "/templates/" ++ [.capture], .template⟩,
   ⟨Route.literals "/templates/" ++ [.capture] ++ Route.literals "/invalidate", .dropTemplate⟩,
   ⟨Route.literals "/certificates/preview", .preview⟩,
   ⟨Route.literals "/certificates/pdf", .pdf⟩,
   ⟨Route.literals "/certificates/image", .image⟩,
   ⟨Route.literals "/certificates/generate", .generate⟩]

/-- The routes of a directory under a mount: everything below the mount, and
the mount itself with and without a slash.  Without a mount nothing is served,
and a mount that is no pattern has no routes. -/
def fileRoutes? (mount : String) (directory : FilePath) : Option (List (Route Endpoint)) :=
  if mount = "" then some []
  else (Mount.pattern? mount).map fun base =>
    [⟨base ++ [.literal '/', .rest], .files mount directory⟩, ⟨base, .files mount directory⟩,
     ⟨base ++ [.literal '/'], .files mount directory⟩]

/-- The directories that are served, with their mounts. -/
def mounts (settings : RenderSettings) : List (String × FilePath) :=
  settings.assetRoots.inOrder.map (fun root => (root.mount, root.directory)) ++
    [(Text.withoutSurrounding '/' settings.staticMount, settings.staticDirectory)]

/-- The table of all routes; none if two of them clash or a mount is no
pattern. -/
def table? (settings : RenderSettings) : Option (List (Route Endpoint)) := do
  let added ← (mounts settings).mapM fun (mount, directory) => fileRoutes? mount directory
  added.flatten.foldlM Route.add? ownRoutes

/-- The identifier in a captured segment. -/
def capturedId (captures : List (List Char)) : Except ApiFault Uuid :=
  match Text.decode? (Text.Percent.decode (captures.headD [])) with
  | some text =>
      match Uuid.ofString? (String.ofList text) with
      | some id => .ok id
      | none => .error (.unreadable 400)
  | none => .error (.unreadable 400)

/-- Change the cache of templates. -/
def changeCache (change : Render.TemplateCache → Render.TemplateCache) : Handler Unit :=
  fun state => (.ok (), { state with cache := change state.cache })

/-- Answer a request that asks for something. -/
def answerGet (workshop : Workshop) (endpoint : Endpoint) (captures : List (List Char)) :
    Handler Response := do
  match endpoint with
  | .health =>
      return .ofJson 200 (.object [("status", .string "ok"), ("version", .string version)])
  | .backends => return .ofJson 200 workshop.renderer.capabilities.summary
  | .templates =>
      let templates ← Handler.cached (·.list)
      return .ofJson 200 (.array (templates.map Template.toValue))
  | .template =>
      let id ← capturedId captures
      let template ← Handler.cached (·.get id)
      return .ofJson 200 template.toValue
  | _ => throw (.unreadable 405)

/-- Answer a request that submits something. -/
def answerPost (workshop : Workshop) (moment : Moment) (endpoint : Endpoint)
    (captures : List (List Char)) (request : Request) : Handler Response := do
  match endpoint with
  | .dropTemplates =>
      changeCache (·.clear)
      return .bare 204
  | .dropTemplate =>
      let id ← capturedId captures
      changeCache (·.drop id)
      return .bare 204
  | .preview => previewPage workshop moment (← readJson CertificateRequest.decoder request)
  | .pdf => downloadPdf workshop moment (← readJson CertificateRequest.decoder request)
  | .image => downloadImage workshop moment (← readJson CertificateRequest.decoder request)
  | .generate => generate workshop moment (← readJson CertificateRequest.decoder request)
  | _ => throw (.unreadable 405)

/-- Answer a request whose path leads to an endpoint. -/
def answerAt (workshop : Workshop) (moment : Moment) (endpoint : Endpoint)
    (captures : List (List Char)) (request : Request) : Handler Response :=
  match endpoint with
  | .files mount directory => Handler.reading fun disk =>
      .ok (Files.serve directory request.method (Mount.below mount request.path) disk)
  | _ =>
      match request.method with
      | "GET" => answerGet workshop endpoint captures
      | "HEAD" => Response.headOnly <$> answerGet workshop endpoint captures
      | "POST" => answerPost workshop moment endpoint captures request
      | _ => throw (.unreadable 405)

/-- Answer a request.  A request for the options of any path is granted. -/
def handle (workshop : Workshop) (table : List (Route Endpoint)) (moment : Moment)
    (request : Request) : StateM ServiceState Response := fun state =>
  if request.method = "OPTIONS" then (.bare 200, state)
  else match Route.find? table request.path with
    | none => (.bare 404, state)
    | some (endpoint, captures) =>
        match answerAt workshop moment endpoint captures request state with
        | (.ok response, next) => (response, next)
        | (.error fault, next) =>
            (if request.method = "HEAD" then fault.response.headOnly else fault.response, next)

end CertPress.Service
