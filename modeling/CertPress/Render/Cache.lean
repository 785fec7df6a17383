import CertPress.Print.Converter
import CertPress.Record.Key
import CertPress.Record.Template
import CertPress.Store.Record

/-!
# Remembered templates

Templates that have been read are remembered until they are dropped.  Only
active templates are given out, and a template that could not be read is looked
for again.  Whatever is dropped starts a new generation, and what was read in an
earlier one is not remembered.
-/

namespace CertPress.Render

open Record (Template)

/-- The templates that are remembered, the directory that holds all, and how
often something was dropped. -/
structure TemplateCache where
  records : FilePath
  byId : List (Uuid × Template)
  listed : Option (List Template)
  generation : UInt64
  deriving Inhabited

namespace TemplateCache

/-- A cache that remembers nothing. -/
def start (records : FilePath) : TemplateCache := ⟨records, [], none, 0⟩

/-- Read an active template. -/
def load (records : FilePath) (id : Uuid) (disk : Disk) : Except ExportFault Template :=
  match Store.loadRecord Template.decoder records (Record.Key.template id) disk with
  | .ok template => if template.isActive then .ok template else .error (.templateNotFound id)
  | .error (.notFound _) => .error (.templateNotFound id)
  | .error fault => .error (.storage fault)

/-- Read the active public templates, sorted by name. -/
def loadListed (records : FilePath) (disk : Disk) : Except ExportFault (List Template) :=
  match Store.listRecords Template.decoder records Record.Key.templates disk with
  | .ok templates =>
      .ok ((templates.filter fun template => template.isActive && template.isPublic).mergeSort
        fun left right => decide (left.name ≤ right.name))
  | .error fault => .error (.storage fault)

/-- The remembered template with an identifier. -/
def remembered? (cache : TemplateCache) (id : Uuid) : Option Template :=
  (cache.byId.find? (·.1 == id)).map (·.2)

/-- Remember a template that was read in a generation, unless that is over. -/
def remember (cache : TemplateCache) (generation : UInt64) (id : Uuid) (template : Template) :
    TemplateCache :=
  if cache.generation = generation then { cache with byId := (id, template) :: cache.byId }
  else cache

/-- Remember the list that was read in a generation, unless that is over. -/
def rememberList (cache : TemplateCache) (generation : UInt64) (templates : List Template) :
    TemplateCache :=
  if cache.generation = generation then { cache with listed := some templates } else cache

/-- An active template. -/
def get (cache : TemplateCache) (id : Uuid) (disk : Disk) :
    Except ExportFault Template × TemplateCache :=
  match cache.remembered? id with
  | some template => (.ok template, cache)
  | none =>
      let generation := cache.generation
      match load cache.records id disk with
      | .ok template => (.ok template, cache.remember generation id template)
      | .error fault => (.error fault, cache)

/-- The active public templates, sorted by name. -/
def list (cache : TemplateCache) (disk : Disk) :
    Except ExportFault (List Template) × TemplateCache :=
  match cache.listed with
  | some templates => (.ok templates, cache)
  | none =>
      let generation := cache.generation
      match loadListed cache.records disk with
      | .ok templates => (.ok templates, cache.rememberList generation templates)
      | .error fault => (.error fault, cache)

/-- Drop one template, and the list, which may hold it. -/
def drop (cache : TemplateCache) (id : Uuid) : TemplateCache :=
  { cache with
    byId := cache.byId.filter (·.1 != id)
    listed := none
    generation := cache.generation + 1 }

/-- Drop everything. -/
def clear (cache : TemplateCache) : TemplateCache :=
  { cache with byId := [], listed := none, generation := cache.generation + 1 }

/-- Drop one template with the list, or everything where none is named. -/
def invalidate (cache : TemplateCache) : Option Uuid → TemplateCache
  | some id => cache.drop id
  | none => cache.clear

end TemplateCache

end CertPress.Render
