import TripComputer.Setting

/-!
# The table of settings

A table holds one value per setting.  The editor path `set` refuses a value wider than its
setting; the program path `store` takes the largest one that fits.
-/

namespace TripComputer

/-- A value for every setting. -/
structure Settings where
  values : Vector UInt32 Setting.count
deriving DecidableEq

namespace Settings

/-- The table with every setting at its default. -/
def defaults : Settings where
  values := ⟨(Setting.all.map Setting.default).toArray, by simp [Setting.all, Setting.count]⟩

instance : Inhabited Settings := ⟨defaults⟩

def get (settings : Settings) (setting : Setting) : UInt32 :=
  settings.values[setting.position]

/-- The table with one value replaced, whatever its width. -/
def put (settings : Settings) (setting : Setting) (value : UInt32) : Settings where
  values := settings.values.set setting.position.val value setting.position.isLt

/-- The editor's change: a value wider than its setting is refused. -/
def set (settings : Settings) (setting : Setting) (value : UInt32) :
    Except SettingError Settings :=
  if value > setting.maxValue then .error (.outOfRange setting value)
  else .ok (settings.put setting value)

/-- A program's change: a value wider than its setting is stored as the largest one. -/
def store (settings : Settings) (setting : Setting) (value : UInt64) : Settings :=
  settings.put setting
    (if value ≤ setting.maxValue.toUInt64 then value.toUInt32 else setting.maxValue)

/-- Whether a switch is on. -/
def flag (settings : Settings) (setting : Setting) : Bool :=
  settings.get setting != 0

/-- Whether the table is in metric units. -/
def metric (settings : Settings) : Bool :=
  settings.flag .metricMode

/-- Settings with their values, in index order. -/
def toList (settings : Settings) : List (Setting × UInt32) :=
  Setting.all.map fun setting => (setting, settings.get setting)

/-- The settings whose values differ from those of another table. -/
def changesFrom (settings base : Settings) : List (Setting × UInt32) :=
  settings.toList.filter fun (setting, value) => value != base.get setting

@[simp]
theorem get_put_self (settings : Settings) (setting : Setting) (value : UInt32) :
    (settings.put setting value).get setting = value := by
  simp [get, put]

theorem get_put_of_ne (settings : Settings) {setting other : Setting} (value : UInt32)
    (different : other ≠ setting) :
    (settings.put setting value).get other = settings.get other := by
  have apart : setting.position.val ≠ other.position.val := fun same =>
    different (Setting.position_injective (Fin.ext same.symm))
  simp [get, put, Vector.getElem_set_ne _ _ apart]

end Settings

end TripComputer
