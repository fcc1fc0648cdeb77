import Throttle.Settings.Basic
import Throttle.Ini.Document

/-!
# Settings from INI

Every value of an INI document is a string. The pairs of the general section are
entries of the root; a named section is a table entry of the root holding its pairs.
A key given twice keeps its last value, and so does a section given twice: the last of
them stands for all.
-/

namespace Throttle

/-- The entries of a table with each of `new` put in, in order: an entry replaces one
of the same key. -/
def Setting.putAll (entries : List (String × Setting)) (new : List (String × Setting)) :
    List (String × Setting) :=
  new.foldl (fun es (k, v) => Setting.putEntry k v es) entries

/-- The settings of an INI file named `uri`. -/
def Setting.ofIni (uri : String) (text : String) :
    Except SettingsError (List (String × Setting)) := do
  let sections ← (Ini.parse text).mapError (SettingsError.fileParse uri)
  let o := some uri
  let strings (pairs : List (String × String)) : List (String × Setting) :=
    Setting.putAll [] (pairs.map fun (k, v) => (k, Setting.str o v))
  pure (sections.foldl (fun root s =>
    match s.name with
    | some name => Setting.putEntry name (.table o (strings s.pairs)) root
    | none => Setting.putAll root (strings s.pairs)) [])

end Throttle
