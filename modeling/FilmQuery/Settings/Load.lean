import FilmQuery.Detail
import FilmQuery.Settings.Basic
import FilmQuery.Settings.File
import FilmQuery.Settings.Seconds
import FilmQuery.Text.Upper

/-!
# Loading settings

A setting is taken from the environment, else from the file of settings, else it has its default.
Names match in any case, and of several that match the last one counts. Every value that does not
fit is reported, in the order of the settings.
-/

namespace FilmQuery

/-- The variables of a process. -/
abbrev Environment := List (Text × Text)

namespace Settings

/-- A name without its case; the Kelvin sign is a `k`. -/
def foldName (t : Text) : Text :=
  t.map fun c => if isUpperAscii c then c + 0x20 else if c = 0x212A then 'k'.toNat else c

/-- The last value under a name in any case. -/
def lookupFolded {α : Type} (entries : List (Text × α)) (name : Text) : Option α :=
  entries.reverse.findSome? fun (k, v) => if foldName k = foldName name then some v else none

/-- What is given for a setting. -/
def given? (environment : Environment) (file : List (Text × Option Text)) (s : Setting) :
    Option Text :=
  match lookupFolded environment s.variableName with
  | some value => some value
  | none => (lookupFolded file s.variableName).join

/-! ## Values -/

/-- An address: it has one of two schemes, and loses blanks and slashes at its end. -/
def address (t : Text) : Except Misfit Text :=
  let t := Text.trim isBlank t
  if t.startsWith (lit "http://") || t.startsWith (lit "https://") then
    .ok (t.trimEnd (· == '/'.toNat))
  else .error .badUrl

/-- The name of a model, which must not be blank. -/
def modelNameOf (t : Text) : Except Misfit Text :=
  match Text.trim isBlank t with
  | [] => .error .noModel
  | t => .ok t

/-- A positive number of seconds. -/
def timeout (t : Text) : Except Misfit Binary64 :=
  match Seconds.read? t with
  | none => .error .notANumber
  | some x => if x.isPositive then .ok x else .error .notPositive

/-- A level in upper case, `INFO` if it is blank. -/
def levelName (t : Text) : Text := (setText? (some (Text.trim isBlank t).upper)).getD (lit "INFO")

/-! ## The whole -/

/-- A value that is given and checked, or the default. -/
def check {α : Type} (fallback : α) (f : Text → Except Misfit α) : Option Text → Except Misfit α
  | none => .ok fallback
  | some t => f t

/-- The detail of a value that does not fit. -/
def detail? {α : Type} (s : Setting) : Except Misfit α → Option Detail
  | .ok _ => none
  | .error misfit => some ⟨[s.variableName], misfit⟩

/-- The settings that are given, or a detail for each value that does not fit. -/
def ofGiven (given : Setting → Option Text) : Except (List Detail) Settings :=
  let base : Settings := {}
  let host := check base.modelHost address (given .modelHost)
  let model := check base.modelName modelNameOf (given .modelName)
  let modelTimeout := check base.modelTimeout timeout (given .modelTimeout)
  let url := check base.storeUrl address (given .storeUrl)
  let storeTimeout := check base.storeTimeout timeout (given .storeTimeout)
  match host, model, modelTimeout, url, storeTimeout with
  | .ok host, .ok model, .ok modelTimeout, .ok url, .ok storeTimeout =>
    .ok ⟨given .botToken, host, model, modelTimeout, url, storeTimeout,
      ((given .logLevel).map levelName).getD base.logLevel⟩
  | _, _, _, _, _ =>
    .error ([detail? .modelHost host, detail? .modelName model,
      detail? .modelTimeout modelTimeout, detail? .storeUrl url,
      detail? .storeTimeout storeTimeout].filterMap id)

/-- The settings of a process: its environment, and the file of settings if there is one. -/
def load (environment : Environment) (file : Option Text) : Except (List Detail) Settings :=
  let entries := (file.map (SettingsFile.load environment)).getD []
  ofGiven (given? environment entries)

end Settings

end FilmQuery
