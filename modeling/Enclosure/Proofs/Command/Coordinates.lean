import Enclosure.Proofs.Command.Selection
import Enclosure.Proofs.Text.Digit

/-!
# Coordinates on the command line can be written

Arguments are read up to a number of digits that can also be written. So the range that is resolved
for them can be written, in a log line and in a message.
-/

set_option autoImplicit false

namespace Enclosure

/-- Whether a positive number has no more digits than are written. -/
def Positive.IsShort (p : Positive) : Prop :=
  p.number < 10 ^ Decimal.limit

/-- What comes before a number with no more digits than are written has no more either. -/
theorem Positive.IsShort.natAbs_index_lt {p : Positive} (h : p.IsShort) :
    p.index.natAbs < 10 ^ Decimal.limit := by
  have hle : p.index.natAbs ≤ p.number := by
    have hpos := p.pos
    unfold Positive.index
    omega
  exact Nat.lt_of_le_of_lt hle h

/-- The least positive number can be written. -/
theorem Positive.isShort_one : Positive.one.IsShort :=
  Nat.one_lt_pow (by decide) (by decide)

/-- A number that may be given can be written if its default can. -/
theorem Positive.isShort_getD {p : Positive} {given : Option Positive} (hdefault : p.IsShort)
    (hgiven : ∀ q, given = some q → q.IsShort) : (given.getD p).IsShort := by
  cases given with
  | none => exact hdefault
  | some q => exact hgiven q rfl

namespace ResolveArguments

variable {files : Files} {a : ResolveArguments} {p : Positive} {o : ResolveOption}
  {r : ResolveRequest}

/-- A text that gives a coordinate gives one with no more digits than are written. -/
theorem isShort_of_coordinateOf {text : String} (h : coordinateOf o text = .ok p) : p.IsShort := by
  unfold coordinateOf at h
  split at h
  · cases h
  · next i hread =>
    split at h
    · next n hn =>
      cases h
      have hlt := Digit.natAbs_integer_lt hread
      unfold Positive.ofInt? at hn
      split at hn
      · next hpos =>
        cases hn
        have hsame : i.toNat = i.natAbs := by omega
        exact Nat.lt_of_le_of_lt (Nat.le_of_eq hsame) hlt
      · cases hn
    · cases h

/-- A coordinate that is given has no more digits than are written. -/
theorem isShort_of_coordinate (h : a.coordinate o = .ok (some p)) : p.IsShort := by
  unfold coordinate at h
  split at h
  · cases h
  · obtain ⟨q, hq, hsame⟩ := map_eq_ok_iff.mp h
    cases hsame
    exact isShort_of_coordinateOf hq

/-- The line that is given has no more digits than are written. -/
theorem isShort_of_line (h : a.line = .ok p) : p.IsShort := by
  unfold ResolveArguments.line at h
  obtain ⟨found, hfound, h⟩ := bind_eq_ok_iff.mp h
  split at h
  · cases h
    exact isShort_of_coordinate hfound
  · cases h

/-- The coordinates of a request have no more digits than are written. -/
structure HasShort (r : ResolveRequest) : Prop where
  line : r.line.IsShort
  column : r.column.IsShort
  endLine : ∀ p, r.endLine = some p → p.IsShort
  endColumn : ∀ p, r.endColumn = some p → p.IsShort

/-- Arguments make no request with more digits than are written. -/
theorem hasShort_of_request (h : a.request files = .ok r) : HasShort r := by
  have hgiven {o : ResolveOption} {found : Option Positive}
      (hfound : (a.coordinate o).mapError RequestFault.usage = .ok found) :
      ∀ p, found = some p → p.IsShort := by
    rintro p rfl
    exact isShort_of_coordinate (mapError_eq_ok_iff.mp hfound)
  unfold request at h
  split at h
  · cases h
  · split at h
    · cases h
    · obtain ⟨path, -, h⟩ := bind_eq_ok_iff.mp h
      obtain ⟨line, hline, h⟩ := bind_eq_ok_iff.mp h
      obtain ⟨column, hcolumn, h⟩ := bind_eq_ok_iff.mp h
      obtain ⟨endLine, hendLine, h⟩ := bind_eq_ok_iff.mp h
      obtain ⟨endColumn, hendColumn, h⟩ := bind_eq_ok_iff.mp h
      obtain ⟨config, -, h⟩ := bind_eq_ok_iff.mp h
      cases h
      exact ⟨isShort_of_line (mapError_eq_ok_iff.mp hline),
        Positive.isShort_getD Positive.isShort_one (hgiven hcolumn), hgiven hendLine,
        hgiven hendColumn⟩

/-- The range of a request that arguments make has no coordinate with more digits than are
written. -/
theorem range_short_of_request (h : a.request files = .ok r) :
    ∀ x ∈ [r.range.start.line, r.range.start.column, r.range.stop.line, r.range.stop.column],
      x.natAbs < 10 ^ Decimal.limit := by
  obtain ⟨hline, hcolumn, hendLine, hendColumn⟩ := hasShort_of_request h
  have hanchor := And.intro hline.natAbs_index_lt hcolumn.natAbs_index_lt
  have hhead := And.intro (Positive.isShort_getD hline hendLine).natAbs_index_lt
    (Positive.isShort_getD hcolumn hendColumn).natAbs_index_lt
  simp only [List.forall_mem_cons, List.not_mem_nil, false_implies, implies_true, and_true]
  rcases le_total r.anchorPoint r.headPoint with hle | hle
  · rw [ResolveRequest.range_eq_of_le hle]
    exact ⟨hanchor.1, hanchor.2, hhead⟩
  · rw [ResolveRequest.range_eq_of_ge hle]
    exact ⟨hhead.1, hhead.2, hanchor⟩

end ResolveArguments

end Enclosure
