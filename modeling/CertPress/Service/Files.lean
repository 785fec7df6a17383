import CertPress.Files.Disk
import CertPress.Service.Message
import CertPress.Text.MediaTable
import CertPress.Text.Percent

/-!
# Served files

The files of a directory under a mount.  A path never leads out of the
directory; a directory is answered by its `index.html`, or sent to its path with
a slash at the end.
-/

namespace CertPress.Service.Files

/-- The file below a directory that a decoded path names.  A path that is
absolute or goes up names none. -/
def target? (directory : FilePath) (path : List Char) : Option FilePath := do
  let decoded ← Text.decode? (Text.Percent.decode (Text.dropLeading '/' path))
  let relative : FilePath := ⟨String.ofList decoded⟩
  if relative.isAbsolute || relative.names.contains ".." then none
  else some (relative.names.foldl FilePath.join directory)

/-- The content of a file, or why there is none. -/
def content (file : FilePath) (disk : Disk) : Response :=
  match disk.read file with
  | .ok bytes => .ofContent (Text.mediaTypeOf file.extension?) bytes
  | .error .notFound => .bare 404
  | .error .notDirectory => .bare 404
  | .error .permissionDenied => .bare 404
  | .error _ => .bare 500

/-- Serve the path below a mount. -/
def get (directory : FilePath) (path : List Char) (disk : Disk) : Response :=
  match target? directory path with
  | none => .bare 404
  | some file =>
      if disk.isDirectory file then
        if path.getLast? = some '/' then content (file.join "index.html") disk
        else .bare 307
      else content file disk

/-- Serve a request for a path below a mount.  Files are only read. -/
def serve (directory : FilePath) (method : String) (path : List Char) (disk : Disk) : Response :=
  match method with
  | "GET" => get directory path disk
  | "HEAD" => (get directory path disk).headOnly
  | _ => .bare 405

end CertPress.Service.Files
