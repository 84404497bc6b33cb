import ChatRelay.Log.Line
import ChatRelay.Settings.Decode

/-!
# Loading settings

Settings are loaded from a file. A file that does not exist yields the defaults and a warning; every
other trouble with the file, its text or its values is a fault.
-/

namespace ChatRelay

inductive FileContent where
  | text (text : String)
  | missing
  | notText
  | directory
  /-- Any other trouble, in the words of the system. -/
  | unreadable (reason : String)

inductive LoadFault where
  | unreadable (path reason : String)
  | notADocument (path : String)
  | misfit (path message : String)
  | refused (fault : SettingsFault)
deriving DecidableEq

/-- The wording of a fault. What is wrong with a text that is no document is not told. -/
def LoadFault.message : LoadFault → String
  | .unreadable path reason => "Konfigurationsdatei '" ++ path ++ "' nicht lesbar: " ++ reason
  | .notADocument path => "Konfigurationsfehler in '" ++ path ++ "'"
  | .misfit path message => "Konfigurationsfehler in '" ++ path ++ "': " ++ message
  | .refused fault => fault.message

def missingFileLine (path : String) : Log.Line :=
  ⟨.warn, "parlor_server::config", "Konfigurationsdatei nicht gefunden, verwende Standardwerte",
    [("pfad", .literal path)]⟩

namespace Settings

/-- The settings of a file before any check. -/
def ofFile (path : String) : FileContent → Except LoadFault Settings
  | .text text => match read text with
    | .ok s => .ok s
    | .error .notADocument => .error (.notADocument path)
    | .error (.misfit message) => .error (.misfit path message)
  | .missing => .ok {}
  | .notText => .error (.unreadable path "stream did not contain valid UTF-8")
  | .directory => .error (.unreadable path "Is a directory (os error 21)")
  | .unreadable reason => .error (.unreadable path reason)

/-- The settings of a file, if they pass every check, and the lines logged on the way. -/
def load (path : String) (content : FileContent) : Except LoadFault Settings × List Log.Line :=
  let lines := match content with
    | .missing => [missingFileLine path]
    | _ => []
  let result := match ofFile path content with
    | .error fault => .error fault
    | .ok s => match s.fault? with
      | some fault => .error (.refused fault)
      | none => .ok s
  (result, lines)

end Settings

end ChatRelay
