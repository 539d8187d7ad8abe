import Enclosure.Settings.Environment

/-!
# What a caller overrides

A caller who loads settings gives values by their names. Most of them are settings, the names of
which are taken in any letter case. The others say how the environment is read, or have no meaning
here.
-/

set_option autoImplicit false

namespace Enclosure

/-- What a caller overrides, and how the environment is to be read. -/
structure Overrides where
  naming : VariableNaming
  entries : Entries

namespace Overrides

/-- A caller who overrides nothing. -/
def none : Overrides :=
  ⟨.default, []⟩

/-- A way of naming variables with one choice of the caller. -/
def choose (naming : VariableNaming) (name : String) (v : Value) : VariableNaming :=
  match name, v with
  | "_env_prefix", .str s => { naming with start := s }
  | "_env_nested_delimiter", .str s => { naming with separator := s }
  | "_env_nested_max_split", .int i =>
    { naming with limit := if 0 < i then some (i.toNat - 1) else .none }
  | "_case_sensitive", .bool b => { naming with isCaseSensitive := b }
  | "_env_ignore_empty", .bool b => { naming with ignoresEmpty := b }
  | "_env_parse_none_str", .str s => { naming with nullText := some s }
  | _, _ => naming

/-- The names that are no settings. Of those about the environment only some have a meaning here. -/
def controls : List String :=
  ["_env_prefix", "_env_nested_delimiter", "_env_nested_max_split", "_case_sensitive",
    "_env_ignore_empty", "_env_parse_none_str", "_env_parse_enums", "_env_prefix_target",
    "_env_file", "_env_file_encoding", "_nested_model_default_partial_update", "_secrets_dir",
    "_build_sources"]

/-- Whether a name is no setting. -/
def isControl (name : String) : Bool :=
  controls.contains name || "_cli_".toList.isPrefixOf name.toList

/-- The first value that is given for a setting in any letter case. -/
def valueOf? (name : String) (given : List (String × Value)) : Option Value :=
  (given.find? fun e => LowerCase.lower e.1 = name).map Prod.snd

/-- The overrides that values by their names give: the groups of settings come first, and what has
the name of none of them in any letter case comes after them. -/
def ofGiven (given : List (String × Value)) : Overrides :=
  let settings := given.filter fun e => !isControl e.1
  let names := VariableGroup.all.map VariableGroup.name
  let groups := names.filterMap fun name =>
    (valueOf? name settings).map fun v => (Value.str name, v)
  let others := settings.filter fun e => !names.contains (LowerCase.lower e.1)
  ⟨given.foldl (fun naming e => choose naming e.1 e.2) .default,
    groups ++ others.map fun e => (.str e.1, e.2)⟩

end Overrides

end Enclosure
