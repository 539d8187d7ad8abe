import Enclosure.Proofs.Except
import Enclosure.Proofs.Json.Keys
import Enclosure.Proofs.Settings.Scalar
import Enclosure.Proofs.Text.LowerCase

/-!
# What variables set

The variable of a setting sets it to its text, whatever other variables there are; without that
variable, and others whose names go on from its name, the environment does not set it. In what the
environment gives every key occurs once.
-/

set_option autoImplicit false

namespace Enclosure

namespace VariableNaming

variable {separator cs piece : List Char} {limit : Option Nat} {more : List (List Char)}

/-! ### Pieces of a name -/

/-- There is at least one piece of a name. -/
theorem pieces_ne_nil (separator : List Char) (limit : Option Nat) (skipped : Nat)
    (cs : List Char) : pieces separator limit skipped cs ≠ [] := by
  induction cs generalizing limit skipped with
  | nil => simp [pieces]
  | cons c rest ih =>
    cases skipped with
    | succ skipped =>
      rw [pieces]
      exact ih limit skipped
    | zero =>
      rw [pieces]
      split
      · exact List.cons_ne_nil _ _
      · split <;> exact List.cons_ne_nil _ _

/-- A separator ends a piece, and another character is in front of the piece that comes next. -/
theorem pieces_cons (separator : List Char) (limit : Option Nat) (c : Char) (rest : List Char) :
    (separator <+: c :: rest ∧ pieces separator limit 0 (c :: rest) =
        [] :: pieces separator (limit.map (· - 1)) (separator.length - 1) rest) ∨
      ∃ piece more, pieces separator limit 0 rest = piece :: more ∧
        pieces separator limit 0 (c :: rest) = (c :: piece) :: more := by
  rw [pieces]
  split
  · next hseparator => exact .inl ⟨List.isPrefixOf_iff_prefix.mp hseparator.2, rfl⟩
  · right
    obtain ⟨piece, more, hrest⟩ :=
      List.exists_cons_of_ne_nil (pieces_ne_nil separator limit 0 rest)
    refine ⟨piece, more, hrest, ?_⟩
    rw [hrest]

/-- The pieces of a text have no characters but its own. -/
theorem mem_of_mem_pieces {skipped : Nat} {c : Char}
    (hpiece : piece ∈ pieces separator limit skipped cs) (hc : c ∈ piece) : c ∈ cs := by
  induction cs generalizing limit skipped piece with
  | nil =>
    have hnil : piece = [] := by simpa [pieces] using hpiece
    rw [hnil] at hc
    cases hc
  | cons d rest ih =>
    cases skipped with
    | succ skipped =>
      rw [pieces] at hpiece
      exact List.mem_cons_of_mem _ (ih hpiece hc)
    | zero =>
      rcases pieces_cons separator limit d rest with ⟨-, heq⟩ | ⟨first, more, hrest, heq⟩
      · rw [heq] at hpiece
        rcases List.mem_cons.mp hpiece with rfl | hpiece
        · cases hc
        · exact List.mem_cons_of_mem _ (ih hpiece hc)
      · have hinner {p : List Char} (hp : p ∈ first :: more) (hcp : c ∈ p) : c ∈ rest :=
          ih (hrest ▸ hp) hcp
        rw [heq] at hpiece
        rcases List.mem_cons.mp hpiece with rfl | hpiece
        · rcases List.mem_cons.mp hc with rfl | hc
          · exact List.mem_cons_self
          · exact List.mem_cons_of_mem _ (hinner List.mem_cons_self hc)
        · exact List.mem_cons_of_mem _ (hinner (List.mem_cons_of_mem _ hpiece) hc)

/-- The first piece of a text is the whole text if it is the only one, and otherwise it is in front
of the text with a separator after it. -/
theorem pieces_first (h : pieces separator limit 0 cs = piece :: more) :
    (more = [] → piece = cs) ∧ (more ≠ [] → piece ++ separator <+: cs) := by
  induction cs generalizing piece more with
  | nil =>
    rw [pieces] at h
    injection h with h hmore
    exact ⟨fun _ => h.symm, fun hne => absurd hmore.symm hne⟩
  | cons c rest ih =>
    rcases pieces_cons separator limit c rest with ⟨hseparator, heq⟩ | ⟨first, others, hrest, heq⟩
    · rw [heq] at h
      injection h with h hmore
      refine ⟨?_, fun _ => ?_⟩
      · intro hnil
        rw [hnil] at hmore
        exact absurd hmore (pieces_ne_nil _ _ _ _)
      · rw [← h]
        exact hseparator
    · rw [heq] at h
      injection h with h hmore
      rw [← h, ← hmore]
      obtain ⟨honly, hstarts⟩ := ih hrest
      refine ⟨fun hnil => congrArg (c :: ·) (honly hnil), fun hne => ?_⟩
      exact (List.prefix_cons_inj c).mpr (hstarts hne)

/-! ### Ways to settings -/

variable {naming : VariableNaming} {g : VariableGroup} {name : String} {path : List String}

/-- A name that leads somewhere starts with the variable of the group and goes on with the first
step; with a single step it ends there, and otherwise a separator comes next. -/
theorem path?_eq_some (h : naming.path? g name = some path) :
    ∃ first others, path = first :: others ∧
      (others = [] → name = naming.groupVariable g ++ naming.separator ++ first) ∧
      (others ≠ [] → (naming.groupVariable g ++ naming.separator ++ first ++
        naming.separator).toList <+: name.toList) ∧
      ∀ step ∈ path, ∀ c ∈ step.toList, c ∈ name.toList := by
  unfold path? at h
  dsimp only at h
  split at h
  · next hstart =>
    injection h with h
    obtain ⟨rest, hrest⟩ := List.isPrefixOf_iff_prefix.mp hstart.2
    rw [← hrest, List.drop_left] at h
    obtain ⟨piece, more, hpieces⟩ := List.exists_cons_of_ne_nil
      (pieces_ne_nil naming.separator.toList naming.limit 0 rest)
    obtain ⟨honly, hstarts⟩ := pieces_first hpieces
    have hfirst : (naming.groupVariable g ++ naming.separator ++ String.ofList piece).toList =
        (naming.groupVariable g ++ naming.separator).toList ++ piece := by
      rw [String.toList_append, String.toList_ofList]
    refine ⟨String.ofList piece, more.map String.ofList, ?_, ?_, ?_, ?_⟩
    · rw [← h, hpieces, List.map_cons]
    · intro hnil
      have hwhole := honly (List.map_eq_nil_iff.mp hnil)
      rw [← String.toList_inj, hfirst, hwhole, hrest]
    · intro hne
      have hmore : more ≠ [] := fun hnil => hne (by rw [hnil, List.map_nil])
      rw [String.toList_append, hfirst, ← hrest, List.append_assoc, List.prefix_append_right_inj]
      exact hstarts hmore
    · intro step hstep c hc
      rw [← h] at hstep
      obtain ⟨p, hp, rfl⟩ := List.mem_map.mp hstep
      rw [String.toList_ofList] at hc
      rw [← hrest]
      exact List.mem_append_right _ (mem_of_mem_pieces hp hc)
  · cases h

end VariableNaming

namespace Environment

variable {levels : Nat} {naming : VariableNaming} {g : VariableGroup} {env : Environment}
  {change : Option Value → Value} {path : List String} {es es' : Entries} {key text : String}

/-! ### Assigning along a way -/

/-- The change that a way makes to what lies at its first step. -/
def entering (change : Option Value → Value) : List String → Option Value → Value
  | [], old => change old
  | next :: rest, none => .map (assign change (next :: rest) [])
  | next :: rest, some (.map inner) => .map (assign change (next :: rest) inner)
  | _ :: _, some other => other

/-- Changing what lies at the end of a way changes the entry that the way starts with. -/
theorem assign_cons (change : Option Value → Value) (first : String) (others : List String)
    (es : Entries) :
    assign change (first :: others) es =
      Entries.alter (.str first) (entering change others) es := by
  cases others with
  | nil => rfl
  | cons next rest =>
    rw [assign]
    congr 1
    funext old
    cases old with
    | none => rfl
    | some v => cases v <;> rfl

/-- Whether a change keeps keys apart. -/
def KeepsKeyed (change : Option Value → Value) : Prop :=
  ∀ old : Option Value, (∀ v ∈ old, v.WellKeyed) → (change old).WellKeyed

/-- A change that keeps values well keyed does so at the end of a way as well. -/
theorem wellKeyed_assign (hchange : KeepsKeyed change) (hes : (Value.map es).WellKeyed) :
    (Value.map (assign change path es)).WellKeyed := by
  induction path generalizing es with
  | nil => exact hes
  | cons first others ih =>
    rw [assign_cons]
    refine hes.alter fun old hold => ?_
    cases others with
    | nil => exact hchange old hold
    | cons next rest =>
      cases old with
      | none => exact ih Value.wellKeyed_map_nil
      | some v =>
        have hv : v.WellKeyed := hold v rfl
        cases v with
        | map inner => exact ih hv
        | _ => exact hv

/-- What a variable makes of a value keeps it well keyed. -/
theorem keepsKeyed_of_changeAt (h : changeAt levels naming g path text = .ok change) :
    KeepsKeyed change := by
  unfold changeAt at h
  dsimp only at h
  intro old hold
  split at h
  · obtain ⟨v, hv, rfl⟩ := map_eq_ok_iff.mp h
    exact Json.wellKeyed_of_read hv
  · split at h
    · injection h with h
      rw [← h]
      unfold weakNull
      split
      · trivial
      · trivial
      · exact hold _ rfl
    · injection h with h
      rw [← h]
      trivial

/-! ### One variable after the other -/

variable {v : String × String}

/-- Taking in a variable changes nothing, or what lies at the end of its way. -/
theorem addMember_cases (h : addMember levels naming g es v = .ok es') :
    naming.path? g v.1 = none ∧ es' = es ∨
      ∃ path change, naming.path? g v.1 = some path ∧
        changeAt levels naming g path v.2 = .ok change ∧ es' = assign change path es := by
  unfold addMember at h
  split at h
  · next hpath =>
    injection h with h
    exact .inl ⟨hpath, h.symm⟩
  · next path hpath =>
    obtain ⟨change, hchange, heq⟩ := map_eq_ok_iff.mp h
    exact .inr ⟨path, change, hpath, hchange, heq.symm⟩

/-- Taking in a variable keeps entries well keyed. -/
theorem wellKeyed_addMember (hes : (Value.map es).WellKeyed)
    (h : addMember levels naming g es v = .ok es') : (Value.map es').WellKeyed := by
  rcases addMember_cases h with ⟨-, rfl⟩ | ⟨path, change, -, hchange, rfl⟩
  · exact hes
  · exact wellKeyed_assign (keepsKeyed_of_changeAt hchange) hes

/-- A variable that does not lead to a setting leaves it alone. -/
theorem field?_addMember_of_apart (hapart : ∀ others, naming.path? g v.1 ≠ some (key :: others))
    (h : addMember levels naming g es v = .ok es') : es'.field? key = es.field? key := by
  rcases addMember_cases h with ⟨-, rfl⟩ | ⟨path, change, hpath, -, rfl⟩
  · rfl
  · obtain ⟨first, others, rfl, -⟩ := VariableNaming.path?_eq_some hpath
    have hne : first ≠ key := by
      rintro rfl
      exact hapart others hpath
    rw [assign_cons, Entries.field?_alter, if_neg]
    intro hidentity
    injection hidentity with hidentity
    exact hne hidentity

/-- A text stays when a variable would go on from it. -/
theorem field?_addMember_of_text (hother : naming.path? g v.1 ≠ some [key])
    (htext : es.field? key = some (.str text)) (h : addMember levels naming g es v = .ok es') :
    es'.field? key = some (.str text) := by
  rcases addMember_cases h with ⟨-, rfl⟩ | ⟨path, change, hpath, -, rfl⟩
  · exact htext
  · obtain ⟨first, others, rfl, -⟩ := VariableNaming.path?_eq_some hpath
    rw [assign_cons, Entries.field?_alter, htext]
    split
    · next hidentity =>
      injection hidentity with hidentity
      cases others with
      | nil =>
        rw [hidentity] at hpath
        exact absurd hpath hother
      | cons next rest => rfl
    · rfl

/-- The variable of a setting sets it to its text. -/
theorem field?_addMember_self (hpath : naming.path? g v.1 = some [key])
    (hplain : key ∉ g.jsonMembers) (hnull : naming.nullText = none)
    (h : addMember levels naming g es v = .ok es') : es'.field? key = some (.str v.2) := by
  rcases addMember_cases h with ⟨hnone, -⟩ | ⟨path, change, hsome, hchange, rfl⟩
  · rw [hpath] at hnone
    cases hnone
  · rw [hpath] at hsome
    injection hsome with hsome
    subst hsome
    have htext : changeAt levels naming g [key] v.2 = .ok fun _ => .str v.2 := by
      unfold changeAt
      rw [hnull]
      simp [hplain]
    rw [htext] at hchange
    injection hchange with hchange
    rw [assign_cons, Entries.field?_alter, ← hchange]
    exact if_pos rfl

/-- What variables set one by one is well keyed. -/
theorem wellKeyed_members (h : members levels naming g env = .ok es) : (Value.map es).WellKeyed :=
  foldlM_keeps (p := fun es => (Value.map es).WellKeyed)
    (fun _ _ _ _ hes hnext => wellKeyed_addMember hes hnext) Value.wellKeyed_map_nil h

/-- A member that no variable leads to is not set. -/
theorem field?_members_of_apart
    (hapart : ∀ v ∈ env, ∀ others, naming.path? g v.1 ≠ some (key :: others))
    (h : members levels naming g env = .ok es) : es.field? key = none :=
  foldlM_keeps (p := fun es => es.field? key = none)
    (fun v hv _ _ hes hnext => (field?_addMember_of_apart (hapart v hv) hnext).trans hes) rfl h

/-- The variable of a setting counts, whichever variables come before and after it. -/
theorem field?_members_of_mem (hpath : naming.path? g v.1 = some [key])
    (hplain : key ∉ g.jsonMembers) (hnull : naming.nullText = none) (hv : v ∈ env)
    (honce : (env.map Prod.fst).Nodup) (h : members levels naming g env = .ok es) :
    es.field? key = some (.str v.2) := by
  obtain ⟨before, after, rfl⟩ := List.append_of_mem hv
  unfold members at h
  rw [List.foldlM_append] at h
  obtain ⟨first, -, h⟩ := bind_eq_ok_iff.mp h
  rw [List.foldlM_cons] at h
  obtain ⟨second, hsecond, h⟩ := bind_eq_ok_iff.mp h
  refine foldlM_keeps (p := fun es => es.field? key = some (.str v.2)) ?_
    (field?_addMember_self hpath hplain hnull hsecond) h
  intro w hw _ _ hes hnext
  refine field?_addMember_of_text ?_ hes hnext
  intro hsame
  have hname {n : String} (hn : naming.path? g n = some [key]) :
      n = naming.groupVariable g ++ naming.separator ++ key := by
    obtain ⟨k, others, heq, honly, -⟩ := VariableNaming.path?_eq_some hn
    injection heq with hkey hothers
    rw [hkey]
    exact honly hothers.symm
  rw [List.map_append, List.map_cons, List.nodup_append] at honce
  have hnot := (List.nodup_cons.mp honce.2.1).1
  apply hnot
  rw [hname hpath, ← hname hsame]
  exact List.mem_map_of_mem hw

/-! ### Names as they are compared -/

/-- After a variable was set, there are the variables from before and that one. -/
theorem mem_put {name value : String} {w : String × String} (h : w ∈ put name value env) :
    w ∈ env ∨ w = (name, value) := by
  induction env with
  | nil => exact .inr (List.mem_singleton.mp h)
  | cons x rest ih =>
    obtain ⟨n, old⟩ := x
    rw [put] at h
    split at h
    · next hname =>
      rcases List.mem_cons.mp h with rfl | h
      · exact .inr (by rw [hname])
      · exact .inl (List.mem_cons_of_mem _ h)
    · rcases List.mem_cons.mp h with rfl | h
      · exact .inl List.mem_cons_self
      · exact (ih h).imp_left (List.mem_cons_of_mem _)

/-- Setting a variable leaves names that differ different. -/
theorem nodup_put {name value : String} (h : (env.map Prod.fst).Nodup) :
    ((put name value env).map Prod.fst).Nodup := by
  induction env with
  | nil => simp [put]
  | cons x rest ih =>
    obtain ⟨n, old⟩ := x
    rw [List.map_cons, List.nodup_cons] at h
    rw [put]
    split
    · rw [List.map_cons, List.nodup_cons]
      exact h
    · next hname =>
      rw [List.map_cons, List.nodup_cons]
      refine ⟨?_, ih h.2⟩
      intro hmem
      obtain ⟨w, hw, hwn⟩ := List.mem_map.mp hmem
      rcases mem_put hw with hw | rfl
      · exact h.1 (List.mem_map.mpr ⟨w, hw, hwn⟩)
      · exact hname hwn.symm

/-- What holds of the variables that count: every name is there once, and in lower case. -/
structure Folded (env : Environment) : Prop where
  once : (env.map Prod.fst).Nodup
  low : ∀ v ∈ env, ∀ c ∈ v.1.toList, LowerCase.IsLow c

/-- Where letter case does not matter, variables count under different names in lower case. -/
theorem folded_folded (hcase : naming.isCaseSensitive = false) (env : Environment) :
    Folded (env.folded naming) := by
  have hfold (seen rest : Environment) (hseen : Folded seen) :
      Folded (rest.foldl (fun seen v => put (naming.fold v.1) v.2 seen) seen) := by
    induction rest generalizing seen with
    | nil => exact hseen
    | cons v rest ih =>
      refine ih _ ⟨nodup_put hseen.once, ?_⟩
      intro w hw c hc
      rcases mem_put hw with hw | rfl
      · exact hseen.low w hw c hc
      · have hlower : naming.fold v.1 = LowerCase.lower v.1 := by
          simp [VariableNaming.fold, hcase]
        rw [hlower, LowerCase.lower, String.toList_ofList] at hc
        exact LowerCase.isLow_of_mem_lowerFrom hc
  exact hfold _ _ ⟨List.nodup_nil, by simp⟩

/-- A variable with a value is one of those that are set. -/
theorem mem_of_value? {name : String} (h : env.value? name = some text) : (name, text) ∈ env := by
  obtain ⟨v, hfind, rfl⟩ := Option.map_eq_some_iff.mp h
  have hname := List.find?_some hfind
  rw [decide_eq_true_eq] at hname
  rw [← hname]
  exact List.mem_of_find?_eq_some hfind

/-! ### Renaming members -/

/-- Whether all keys are texts in lower case. -/
def LowKeys (es : Entries) : Prop :=
  ∀ e ∈ es, ∃ s, e.1.identity = .str s ∧ ∀ c ∈ s.toList, LowerCase.IsLow c

/-- Variables with names in lower case set members with such names. -/
theorem lowKeys_members (hlow : ∀ v ∈ env, ∀ c ∈ v.1.toList, LowerCase.IsLow c)
    (h : members levels naming g env = .ok es) : LowKeys es := by
  refine foldlM_keeps (p := LowKeys) ?_ (by intro e he; cases he) h
  intro v hv es es' hes hnext
  rcases addMember_cases hnext with ⟨-, rfl⟩ | ⟨path, change, hpath, -, rfl⟩
  · exact hes
  · obtain ⟨first, others, rfl, -, -, hchars⟩ := VariableNaming.path?_eq_some hpath
    rw [assign_cons]
    refine (Entries.forall_mem_alter_iff
      (p := fun k => ∃ s, k.identity = .str s ∧ ∀ c ∈ s.toList, LowerCase.IsLow c) ?_ _).mpr
      ⟨⟨first, rfl, ?_⟩, hes⟩
    · intro k l heq
      rw [heq]
    · intro c hc
      exact hlow v hv c (hchars first List.mem_cons_self c hc)

/-- A name in lower case is that of its own member. -/
theorem memberName_of_low {k : Value} (h : ∃ s, k.identity = .str s ∧
    ∀ c ∈ s.toList, LowerCase.IsLow c) : memberName g k = k := by
  obtain ⟨s, hidentity, hlow⟩ := h
  rw [Value.identity_eq_str_iff] at hidentity
  subst hidentity
  have hlower : LowerCase.lower s = s := by
    rw [LowerCase.lower, LowerCase.lowerFrom_eq_self hlow, String.ofList_toList]
  unfold memberName
  dsimp only
  rw [hlower]
  cases hfind : g.members.find? fun m => decide (m = s) with
  | none => rfl
  | some m =>
    have hm := List.find?_some hfind
    rw [decide_eq_true_eq] at hm
    rw [hm]
    rfl

/-- Keys in lower case are not renamed. -/
theorem field?_renamed (hkeys : es.KeysOnce) (hlow : LowKeys es) :
    (renamed naming g es).field? key = es.field? key := by
  unfold renamed
  split
  · rfl
  · have hentry : ∀ e ∈ es, (memberName g e.1, e.2) = e := fun e he =>
      Prod.ext (memberName_of_low (hlow e he)) rfl
    have hsame : es.map (fun e => (memberName g e.1, e.2)) = es := by
      rw [List.map_congr_left hentry, List.map_id']
    rw [hsame, Entries.ofPairs, Entries.field?_insertAll [] hkeys, Entries.field?_nil,
      Option.or_none]

/-- Entries under the names of the members are well keyed if they were so before. -/
theorem wellKeyed_renamed (h : (Value.map es).WellKeyed) :
    (Value.map (renamed naming g es)).WellKeyed := by
  unfold renamed
  split
  · exact h
  · refine Value.WellKeyed.insertAll ?_ Value.wellKeyed_map_nil
    intro e he
    obtain ⟨d, hd, rfl⟩ := List.mem_map.mp he
    exact (Value.wellKeyed_map_iff.mp h).2 d hd

/-! ### Groups -/

/-- What is merged into a well-keyed value for the whole group is well keyed. -/
theorem wellKeyed_of_withMembers {whole v : Value} (hwhole : whole.WellKeyed)
    (h : withMembers levels naming g env whole = .ok (some v)) : v.WellKeyed := by
  unfold withMembers at h
  split at h
  · cases h
  · obtain ⟨es, hes, h⟩ := bind_eq_ok_iff.mp h
    split at h
    · next merged hmerged =>
      cases h
      exact wellKeyed_renamed (hwhole.merge? (wellKeyed_members hes) hmerged)
    · cases h
  · cases h
    exact hwhole

/-- What variables set in a group is well keyed. -/
theorem wellKeyed_of_groupValue {v : Value}
    (h : groupValue levels naming g env = .ok (some v)) : v.WellKeyed := by
  unfold groupValue at h
  split at h
  · obtain ⟨es, hes, h⟩ := bind_eq_ok_iff.mp h
    split at h
    · cases h
    · cases h
      exact wellKeyed_renamed (wellKeyed_members hes)
  · split at h
    · cases h
      trivial
    · obtain ⟨whole, hwhole, h⟩ := bind_eq_ok_iff.mp h
      exact wellKeyed_of_withMembers (Json.wellKeyed_of_read hwhole) h

/-- Entries that give values for groups by their names. -/
def named (f : VariableGroup → Option Value) (gs : List VariableGroup) : Entries :=
  gs.filterMap fun g => (f g).map fun v => (.str g.name, v)

variable {f : VariableGroup → Option Value} {gs : List VariableGroup}

/-- An entry under the name of a group is what that group has. -/
theorem exists_of_mem_named {e : Value × Value} (he : e ∈ named f gs) :
    ∃ g ∈ gs, e.1 = .str g.name ∧ f g = some e.2 := by
  obtain ⟨g, hg, he⟩ := List.mem_filterMap.mp he
  obtain ⟨v, hv, rfl⟩ := Option.map_eq_some_iff.mp he
  exact ⟨g, hg, rfl, hv⟩

/-- Values of groups with different names are well keyed together if each is. -/
theorem wellKeyed_named (honce : (gs.map VariableGroup.name).Nodup)
    (hf : ∀ g v, f g = some v → v.WellKeyed) : (Value.map (named f gs)).WellKeyed := by
  rw [Value.wellKeyed_map_iff]
  constructor
  · unfold named Entries.KeysOnce
    rw [List.pairwise_filterMap]
    refine (List.pairwise_map.mp honce).imp ?_
    intro g g' hne e he e' he' s hs hs'
    obtain ⟨v, -, rfl⟩ := Option.map_eq_some_iff.mp he
    obtain ⟨v', -, rfl⟩ := Option.map_eq_some_iff.mp he'
    injection hs with hs
    injection hs' with hs'
    exact hne (hs.trans hs'.symm)
  · intro e he
    obtain ⟨g, -, -, hg⟩ := exists_of_mem_named he
    exact hf g e.2 hg

/-- Under the name of a group lies what the group has, if all names are different. -/
theorem field?_named (honce : (gs.map VariableGroup.name).Nodup) (hg : g ∈ gs) :
    (named f gs).field? g.name = f g := by
  induction gs with
  | nil => cases hg
  | cons d rest ih =>
    rw [List.map_cons, List.nodup_cons] at honce
    have habsent : (named f rest).field? d.name = none := by
      refine Entries.field?_eq_none_of_forall fun e he hidentity => ?_
      obtain ⟨g', hg', hkey, -⟩ := exists_of_mem_named he
      rw [hkey] at hidentity
      injection hidentity with hidentity
      exact honce.1 (List.mem_map.mpr ⟨g', hg', hidentity⟩)
    have hstep (name : String) : (named f (d :: rest)).field? name =
        if d.name = name then (f d).or ((named f rest).field? name)
        else (named f rest).field? name := by
      unfold named
      cases hd : f d with
      | none => simp [hd]
      | some v => simp [hd, Entries.field?_cons, Value.identity]
    rw [hstep]
    rcases List.mem_cons.mp hg with rfl | hg
    · rw [if_pos rfl, habsent, Option.or_none]
    · have hne : d.name ≠ g.name := by
        intro heq
        exact honce.1 (List.mem_map.mpr ⟨g, hg, heq.symm⟩)
      rw [if_neg hne, ih honce.2 hg]

/-- What the environment gives for groups is for each what its variables set. -/
theorem groupValues_eq_named (h : groupValues levels naming env gs = .ok es) :
    (∀ g ∈ gs, ∃ v, groupValue levels naming g env = .ok v) ∧
      es = named (fun g => (groupValue levels naming g env).toOption.join) gs := by
  induction gs generalizing es with
  | nil =>
    cases h
    exact ⟨by simp, rfl⟩
  | cons g rest ih =>
    rw [groupValues] at h
    obtain ⟨value, hvalue, h⟩ := bind_eq_ok_iff.mp h
    obtain ⟨others, hothers, h⟩ := bind_eq_ok_iff.mp h
    cases h
    have hgroup := mapError_eq_ok_iff.mp hvalue
    obtain ⟨hread, rfl⟩ := ih hothers
    refine ⟨List.forall_mem_cons.mpr ⟨⟨value, hgroup⟩, hread⟩, ?_⟩
    cases value with
    | none => simp [hgroup, named, Except.toOption]
    | some v => simp [hgroup, named, Except.toOption]

/-- In what the environment gives every key occurs once. -/
theorem wellKeyed_of_entries (h : env.entries levels naming = .ok es) :
    (Value.map es).WellKeyed := by
  rw [(groupValues_eq_named h).2]
  refine wellKeyed_named (by decide) fun g v hg => ?_
  cases hgroup : groupValue levels naming g (env.folded naming) with
  | error f =>
    rw [hgroup] at hg
    cases hg
  | ok value =>
    rw [hgroup] at hg
    exact wellKeyed_of_groupValue (hgroup.trans (congrArg Except.ok hg))

/-- Where no variable sets the whole group, its members are what variables set one by one. -/
theorem setting?_of_entries (hcase : naming.isCaseSensitive = false)
    (h : env.entries levels naming = .ok es) (hg : g ∈ VariableGroup.all)
    (hnone : (env.folded naming).value? (naming.groupVariable g) = none) (key : String) :
    ∃ ms, members levels naming g (env.folded naming) = .ok ms ∧
      es.setting? g.name key = ms.field? key := by
  obtain ⟨hread, hes⟩ := groupValues_eq_named h
  obtain ⟨value, hvalue⟩ := hread g hg
  have hgroup : es.field? g.name = value := by
    rw [hes, field?_named (by decide) hg, hvalue]
    rfl
  unfold groupValue at hvalue
  rw [hnone] at hvalue
  obtain ⟨ms, hms, hfield⟩ := bind_eq_ok_iff.mp hvalue
  refine ⟨ms, hms, ?_⟩
  have hfolded := folded_folded hcase env
  have hkeys := (Value.wellKeyed_map_iff.mp (wellKeyed_members hms)).1
  unfold Entries.setting?
  split at hfield
  · next hempty =>
    cases hfield
    rw [Entries.members_of_absent hgroup, List.isEmpty_iff.mp hempty]
  · cases hfield
    rw [Entries.members_of_field? hgroup rfl,
      field?_renamed hkeys (lowKeys_members hfolded.low hms)]

end Environment

namespace ScalarSetting

/-- The group of the variable of a setting. -/
def variableGroup : ScalarSetting → VariableGroup
  | .severity => .logging
  | _ => .resolver

/-- The name of the variable of a whole group, as it is compared. -/
def groupVariable (t : ScalarSetting) : String :=
  "codescope__" ++ t.group

/-- The name of the variable of a setting, as it is compared. -/
def variableName (t : ScalarSetting) : String :=
  t.groupVariable ++ "__" ++ t.key

/-- The variable of a whole group has the name of the group behind the prefix. -/
theorem default_groupVariable (t : ScalarSetting) :
    VariableNaming.default.groupVariable t.variableGroup = t.groupVariable := by
  cases t <;> decide +kernel

/-- The variable of a setting leads to that setting. -/
theorem path?_variableName (t : ScalarSetting) :
    VariableNaming.default.path? t.variableGroup t.variableName = some [t.key] := by
  cases t <;> decide +kernel

/-- Where no variable sets the group, the environment gives for a setting the text of its variable,
and nothing if there is neither that variable nor one for a part of the setting. -/
theorem setting?_environment {levels : Nat} {t : ScalarSetting} {env : Environment} {es : Entries}
    (h : env.entries levels .default = .ok es)
    (hnone : (env.folded .default).value? t.groupVariable = none) :
    (∀ text, (env.folded .default).value? t.variableName = some text →
      es.setting? t.group t.key = some (.str text)) ∧
    ((∀ v ∈ env.folded .default, v.1 ≠ t.variableName ∧
        ¬ (t.variableName ++ "__").toList <+: v.1.toList) →
      es.setting? t.group t.key = none) := by
  have hgroup : t.variableGroup.name = t.group := by cases t <;> rfl
  have hmem : t.variableGroup ∈ VariableGroup.all := by
    cases t <;> simp [variableGroup, VariableGroup.all]
  rw [← t.default_groupVariable] at hnone
  obtain ⟨ms, hms, hsetting⟩ := Environment.setting?_of_entries rfl h hmem hnone t.key
  rw [hgroup] at hsetting
  rw [hsetting]
  constructor
  · intro text htext
    have hfolded : Environment.Folded (env.folded .default) :=
      Environment.folded_folded (by rfl) env
    have hplain : t.key ∉ t.variableGroup.jsonMembers := by cases t <;> decide
    exact Environment.field?_members_of_mem (v := (t.variableName, text)) t.path?_variableName
      hplain rfl (Environment.mem_of_value? htext) hfolded.once hms
  · intro hapart
    refine Environment.field?_members_of_apart (fun v hv others hpath => ?_) hms
    obtain ⟨first, more, heq, honly, hstarts, -⟩ := VariableNaming.path?_eq_some hpath
    rw [t.default_groupVariable, ← (List.cons.inj heq).1] at honly hstarts
    by_cases hmore : more = []
    · exact (hapart v hv).1 (honly hmore)
    · exact (hapart v hv).2 (hstarts hmore)

end ScalarSetting

end Enclosure
