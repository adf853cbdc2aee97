import TypingBundle.Registry

/-!
Which file declares which ambient module.
-/

namespace TypingBundle

/-- The file that declares each ambient module, in the order of discovery. -/
structure Exports where
  owners : List (Text × Location)

namespace Exports

/-- The file that declares a module. -/
def owner? (e : Exports) (name : Text) : Option Location :=
  (e.owners.find? fun entry => entry.1 = name).map Prod.snd

/-- The declarations of one file. -/
def declarationsOf (entry : Location × Record) : List (Text × Location) :=
  entry.2.declaredModules.map fun name => (name, entry.1)

/-- The declarations of all files, one after the other. -/
def declarations (registry : Registry) : List (Text × Location) :=
  registry.records.flatMap declarationsOf

/-- The table with one more declaration. Two files must not declare the same module. -/
def add (e : Exports) (declaration : Text × Location) : Except BundleError Exports :=
  match e.owner? declaration.1 with
  | none => .ok ⟨e.owners ++ [declaration]⟩
  | some first =>
    if first = declaration.2 then .ok e
    else .error (.duplicateExport declaration.1 first declaration.2)

/-- The table of a registry. -/
def build (registry : Registry) : Except BundleError Exports :=
  (declarations registry).foldlM add ⟨[]⟩

end Exports
end TypingBundle
