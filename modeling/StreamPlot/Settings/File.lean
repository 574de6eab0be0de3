import StreamPlot.Settings.Reading

/-!
# Settings files

A session takes its settings from the file that is named on the command line. If
none is, it takes them from the standard place, and if there is nothing in that
place the settings are the default ones. A named file must be there.
-/

namespace StreamPlot

/-- What is found in the place of a file. -/
inductive FileContent where
  | missing
  /-- Something that cannot be read as a file. -/
  | unreadable
  | found (bytes : ByteArray)

namespace FileContent

/-- The text of a file, if all of it is UTF-8. -/
def text? : FileContent → Option String
  | missing => none
  | unreadable => none
  | found bytes => String.fromUTF8? bytes

def isPresent : FileContent → Bool
  | missing => false
  | unreadable => true
  | found _ => true

end FileContent

/-- The places where settings are looked for. -/
structure SettingsPlaces where
  /-- What is found at a path that the user names. -/
  named : String → FileContent
  standardPath : String := ""
  standard : FileContent := .missing

/-- The settings in a file. A file without a text is the same as none. -/
def Settings.load (path : String) (content : FileContent) : Except Failure Settings :=
  match content.text? with
  | some text => Settings.parse text
  | none => .error (.settingsNotFound path)

/-- The settings of a session, from the file that is named, if one is. -/
def Settings.resolve (places : SettingsPlaces) (path? : Option String) :
    Except Failure Settings :=
  match path? with
  | some path => Settings.load path (places.named path)
  | none =>
      if places.standard.isPresent then Settings.load places.standardPath places.standard
      else .ok .default

/-- The settings that a program runs with: those of the files, overruled by the
command line, if they can be used. -/
def Settings.effective (places : SettingsPlaces) (path? : Option String)
    (override : SettingsOverride) : Except Failure Settings :=
  match Settings.resolve places path? with
  | .error failure => .error failure
  | .ok settings => (settings.overruled override).validated

end StreamPlot
