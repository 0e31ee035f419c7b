import UtilityMarkup.Settings.Basic

/-!
# Sessions

Settings that a user edits while compilations work on frozen copies of them.
-/

namespace UtilityMarkup

/-- One change of the settings. Each change replaces the content of one slot. -/
inductive Edit where
  | setTag (id tag : String)
  | clearTag (id : String)
  | importPalette (palette : Palette)
  | removePalette
  | setCustom (palette : Palette)
  | setPictures (paths : PicturePaths)
  | setVocabulary (vocabulary : Vocabulary)

namespace Settings

def apply (settings : Settings) : Edit → Settings
  | .setTag id tag => { settings with tags := settings.tags.insert id tag }
  | .clearTag id => { settings with tags := settings.tags.erase id }
  | .importPalette palette => { settings with imported? := some palette }
  | .removePalette => { settings with imported? := none }
  | .setCustom palette => { settings with custom := palette }
  | .setPictures paths => { settings with pictures := paths }
  | .setVocabulary vocabulary => { settings with vocabulary := vocabulary }

end Settings

/-- The live settings, and the copies taken of them so far, oldest first. -/
structure Session where
  live : Settings := {}
  snapshots : List Settings := []

namespace Session

def edit (session : Session) (change : Edit) : Session :=
  { session with live := session.live.apply change }

def takeSnapshot (session : Session) : Session :=
  { session with snapshots := session.snapshots ++ [session.live] }

/-- The settings that a query reads: those of a snapshot, or the live ones. -/
def settingsAt (session : Session) : Option Nat → Settings
  | some index => session.snapshots[index]?.getD session.live
  | none => session.live

end Session

end UtilityMarkup
