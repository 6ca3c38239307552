import FuelTelemetry.Calibration
import FuelTelemetry.Proofs.Json.Unwritable
import FuelTelemetry.Proofs.Number.Overflow
import FuelTelemetry.Proofs.Order.Bisecting
import Mathlib.Data.List.Induction
import Mathlib.Data.List.Sort

/-!
A curve against a plain scan of its rows. Of rows at the same points a curve keeps the last one, in
whatever order the rows come; so its breakpoint for raw points is the last row among those with the
greatest points at or below them, and its first breakpoint has the least points of all rows. The
level, and each way in which there is none, then follow from the rows alone.
-/

namespace FuelTelemetry

namespace Breakpoint

variable {b : Breakpoint} {rows : List Breakpoint}

theorem ext_line {b' : Breakpoint} (points : b.points = b'.points) (line : b.line = b'.line) :
    b = b' := by
  cases b
  cases b'
  cases points
  cases line
  rfl

/-- A row behind which no other has the same points. -/
def LastOf (b : Breakpoint) (rows : List Breakpoint) : Prop :=
  ∃ before after, rows = before ++ b :: after ∧ ∀ row ∈ after, row.points ≠ b.points

/-- The row that a scan settles on: the last of those with the greatest points at or below the raw
points. -/
structure Governs (b : Breakpoint) (rows : List Breakpoint) (raw : Int) : Prop where
  last : b.LastOf rows
  reached : b.points ≤ raw
  greatest : ∀ row ∈ rows, row.points ≤ raw → row.points ≤ b.points

theorem LastOf.mem (h : b.LastOf rows) : b ∈ rows := by
  obtain ⟨before, after, rfl, -⟩ := h
  simp

theorem not_lastOf_nil : ¬ b.LastOf [] := fun h => nomatch h.mem

theorem lastOf_concat_iff {row : Breakpoint} :
    b.LastOf (rows ++ [row]) ↔ b = row ∨ (b.LastOf rows ∧ b.points ≠ row.points) := by
  constructor
  · rintro ⟨before, after, split, others⟩
    rcases List.eq_nil_or_concat after with rfl | ⟨after, last, rfl⟩
    · exact .inl (List.append_inj_right' split rfl |> List.cons.inj |>.1).symm
    · rw [List.concat_eq_append, ← List.cons_append, ← List.append_assoc] at split
      obtain ⟨rfl, ending⟩ := List.append_inj' split rfl
      cases ending
      exact .inr ⟨⟨before, after, rfl, fun r hr => others r (by simp [hr])⟩, fun same =>
        others row (by simp) same.symm⟩
  · rintro (rfl | ⟨⟨before, after, rfl, others⟩, differs⟩)
    · exact ⟨rows, [], rfl, nofun⟩
    · refine ⟨before, after ++ [row], by simp, fun r hr => ?_⟩
      rcases List.mem_append.1 hr with hr | hr
      · exact others r hr
      · rw [List.mem_singleton.1 hr]
        exact differs.symm

end Breakpoint

theorem insert_eq_orderedInsert (points : Int) (keys : List Int) :
    inOrder.insert points keys = keys.orderedInsert (· ≤ ·) points := by
  induction keys with
  | nil => rfl
  | cons first rest ih => rw [inOrder.insert, List.orderedInsert_cons, ih]

theorem inOrder_eq_insertionSort (keys : List Int) :
    inOrder keys = keys.insertionSort (· ≤ ·) := by
  induction keys with
  | nil => rfl
  | cons points rest ih =>
    rw [inOrder, insert_eq_orderedInsert, ih, List.insertionSort_cons]

theorem perm_inOrder (keys : List Int) : (inOrder keys).Perm keys := by
  rw [inOrder_eq_insertionSort]
  exact List.perm_insertionSort ..

namespace Curve

open Breakpoint

variable {rows : List Breakpoint} {b : Breakpoint} {c : Curve} {raw : Int}

theorem linesOf_concat (rows : List Breakpoint) (row : Breakpoint) :
    linesOf (rows ++ [row]) = (linesOf rows).put row.points row.line := by
  rw [linesOf, List.map_append, List.map_singleton, Table.merge_concat, linesOf]

theorem get?_linesOf_iff : (linesOf rows).get? b.points = some b.line ↔ b.LastOf rows := by
  induction rows using List.reverseRecOn with
  | nil => exact iff_of_false nofun not_lastOf_nil
  | append_singleton rows row ih =>
    rw [linesOf_concat, lastOf_concat_iff]
    by_cases same : b.points = row.points
    · rw [same, Table.get?_put_self, Option.some_inj]
      refine ⟨fun lines => .inl (Breakpoint.ext_line same lines.symm), ?_⟩
      rintro (rfl | ⟨-, differs⟩)
      · rfl
      · exact absurd rfl differs
    · rw [Table.get?_put_of_ne same, ih]
      refine ⟨fun isLast => .inr ⟨isLast, same⟩, ?_⟩
      rintro (rfl | ⟨isLast, -⟩)
      · exact absurd rfl same
      · exact isLast

theorem mem_keys_linesOf_iff {p : Int} :
    p ∈ (linesOf rows).keys ↔ ∃ row ∈ rows, row.points = p := by
  induction rows using List.reverseRecOn with
  | nil => simp [linesOf, Table.merge, Table.keys]
  | append_singleton rows row ih =>
    rw [linesOf_concat, Table.mem_keys_put, ih]
    simp only [List.mem_append, List.mem_singleton, or_and_right, exists_or, exists_eq_left]
    exact or_comm.trans (or_congr_right eq_comm)

theorem nodup_keys_linesOf (rows : List Breakpoint) : (linesOf rows).keys.Nodup := by
  induction rows using List.reverseRecOn with
  | nil => exact List.nodup_nil
  | append_singleton rows row ih =>
    rw [linesOf_concat]
    exact Table.nodup_keys_put ih _ _

structure Lowest (rows : List Breakpoint) (p : Int) : Prop where
  listed : ∃ row ∈ rows, row.points = p
  least : ∀ row ∈ rows, p ≤ row.points

theorem Lowest.unique {p p' : Int} (h : Lowest rows p) (h' : Lowest rows p') : p = p' := by
  obtain ⟨row, listed, rfl⟩ := h.listed
  obtain ⟨row', listed', rfl⟩ := h'.listed
  have := h.least row' listed'
  have := h'.least row listed
  omega

def Of (rows : List Breakpoint) (c : Curve) : Prop := c.lines = linesOf rows

theorem ofRows_ok (present : rows ≠ []) : ∃ c, ofRows rows = .ok c ∧ c.Of rows := by
  obtain ⟨row, rest, rfl⟩ := List.exists_cons_of_ne_nil present
  have known : row.points ∈ (linesOf (row :: rest)).keys :=
    mem_keys_linesOf_iff.2 ⟨row, List.mem_cons_self, rfl⟩
  have nonempty : linesOf (row :: rest) ≠ [] := by
    intro none
    rw [none] at known
    cases known
  exact ⟨_, dif_neg nonempty, rfl⟩

namespace Of

theorem mem_keys_iff (h : c.Of rows) {p : Int} : p ∈ c.keys ↔ ∃ row ∈ rows, row.points = p := by
  rw [c.sorted, h, (perm_inOrder _).mem_iff, mem_keys_linesOf_iff]

theorem rising (h : c.Of rows) : c.keys.Pairwise (· < ·) := by
  have ordered : c.keys.Pairwise (· ≤ ·) := by
    rw [c.sorted, inOrder_eq_insertionSort]
    exact List.pairwise_insertionSort ..
  have distinct : c.keys.Nodup := by
    rw [c.sorted, h]
    exact (perm_inOrder _).nodup_iff.2 (nodup_keys_linesOf rows)
  exact (ordered.and distinct).imp fun ⟨le, ne⟩ => lt_of_le_of_ne le ne

theorem breakpointAt (h : c.Of rows) {p : Int} (known : p ∈ c.keys) :
    ∃ b : Breakpoint, c.breakpointAt p = .ok b ∧ b.LastOf rows ∧ b.points = p := by
  have there : (c.lines.get? p).isSome := by
    rwa [Table.get?_isSome_iff, ← (perm_inOrder _).mem_iff, ← c.sorted]
  obtain ⟨line, found⟩ := Option.isSome_iff_exists.1 there
  refine ⟨line.startingAt p, ?_, ?_, rfl⟩
  · rw [Curve.breakpointAt, found]
  · rw [h] at found
    exact get?_linesOf_iff.1 found

theorem front (h : c.Of rows) (raw : Int) :
    c.keys.Pairwise fun p q => decide (q ≤ raw) = true → decide (p ≤ raw) = true := by
  refine h.rising.imp fun {p q} below => ?_
  simp only [decide_eq_true_eq]
  omega

theorem bisect_keys (h : c.Of rows) (raw : Int) :
    Id.run (bisect (fun key => pure (decide (key ≤ raw))) c.keys) =
      (c.keys.takeWhile fun key => decide (key ≤ raw)).length := by
  rw [bisect_eq (fun _ _ => rfl) (h.front raw)]
  rfl

theorem lowest_lowest (h : c.Of rows) : Lowest rows c.lowest where
  listed := h.mem_keys_iff.1 (List.head_mem c.keys_ne_nil)
  least row listed := by
    have known := h.mem_keys_iff.2 ⟨row, listed, rfl⟩
    have rising := h.rising
    rw [← List.cons_head_tail c.keys_ne_nil] at known rising
    rcases List.mem_cons.1 known with first | behind
    · exact first.ge
    · exact ((List.pairwise_cons.1 rising).1 _ behind).le

theorem floor_cases (h : c.Of rows) (raw : Int) :
    (∃ b, c.floor raw = .ok b ∧ b.Governs rows raw) ∨
      (c.floor raw = .error (.naming raw (.belowCurve raw c.lowest)) ∧
        ∀ row ∈ rows, raw < row.points) := by
  have reached {i : Nat} (inside : i < c.keys.length) := getElem_iff_lt_takeWhile (h.front raw) inside
  have bounded := (c.keys.takeWhile_sublist fun key => decide (key ≤ raw)).length_le
  simp only [decide_eq_true_eq] at reached
  unfold floor
  rw [h.bisect_keys]
  generalize (c.keys.takeWhile fun key => decide (key ≤ raw)).length = count at reached bounded
  have place {row : Breakpoint} (listed : row ∈ rows) :
      ∃ i, ∃ inside : i < c.keys.length, c.keys[i] = row.points :=
    List.mem_iff_getElem.1 (h.mem_keys_iff.2 ⟨row, listed, rfl⟩)
  cases count with
  | zero =>
    refine .inr ⟨rfl, fun row listed => ?_⟩
    obtain ⟨i, inside, at_row⟩ := place listed
    have := reached inside
    omega
  | succ last =>
    obtain ⟨b, found, isLast, at_key⟩ := h.breakpointAt (List.getElem_mem bounded)
    refine .inl ⟨b, ?_, isLast, ?_, fun row listed below => ?_⟩
    · simp only [List.getElem?_eq_getElem (Nat.lt_of_succ_le bounded), found]
    · rw [at_key]
      exact (reached bounded).2 (Nat.lt_succ_self last)
    · obtain ⟨i, inside, at_row⟩ := place listed
      rw [← at_row] at below ⊢
      rw [at_key]
      have le : i ≤ last := Nat.le_of_lt_succ ((reached inside).1 below)
      rcases Nat.lt_or_eq_of_le le with lt | rfl
      · exact (List.pairwise_iff_getElem.1 h.rising i last inside bounded lt).le
      · exact Int.le_refl _

end Of

/-- What raw points give by the rows alone: no level below all of them, the level of the row at the
points themselves, and past it a level by its slope, unless that is zero or the distance too large.
The messages for points below all rows and for a zero slope name the points; points of too many digits
cannot be named, and then the failure is that one. -/
inductive Calibrated (rows : List Breakpoint) (raw : Int) : Except Fault Float → Prop where
  | below {lowest : Int} (all : ∀ row ∈ rows, raw < row.points) (least : Lowest rows lowest)
      (short : ¬ Text.Overlong raw) : Calibrated rows raw (.error (.belowCurve raw lowest))
  | belowUnnamed (all : ∀ row ∈ rows, raw < row.points) (long : Text.Overlong raw) :
      Calibrated rows raw (.error .tooManyDigits)
  | hit {b : Breakpoint} (governs : b.Governs rows raw) (at_points : raw = b.points) :
      Calibrated rows raw (.ok b.level)
  | flat {b : Breakpoint} (governs : b.Governs rows raw) (past : b.points < raw)
      (zero : (b.slope == 0.0) = true) (short : ¬ Text.Overlong b.points) :
      Calibrated rows raw (.error (.zeroSlope b.points))
  | flatUnnamed {b : Breakpoint} (governs : b.Governs rows raw) (past : b.points < raw)
      (zero : (b.slope == 0.0) = true) (long : Text.Overlong b.points) :
      Calibrated rows raw (.error .tooManyDigits)
  | far {b : Breakpoint} (governs : b.Governs rows raw) (past : b.points < raw)
      (sloped : (b.slope == 0.0) = false) (large : Number.overflow ≤ (raw - b.points).natAbs) :
      Calibrated rows raw (.error .tooLargeForDouble)
  | between {b : Breakpoint} {distance : Float} (governs : b.Governs rows raw)
      (past : b.points < raw) (sloped : (b.slope == 0.0) = false)
      (near : Number.ofInt? (raw - b.points) = some distance) :
      Calibrated rows raw (.ok (distance / b.slope + b.level))

theorem governs_unique {b' : Breakpoint} (h : b.Governs rows raw)
    (h' : b'.Governs rows raw) : b = b' := by
  have same : b.points = b'.points :=
    le_antisymm (h'.greatest b h.last.mem h.reached) (h.greatest b' h'.last.mem h'.reached)
  have lines := get?_linesOf_iff.2 h.last
  rw [same, get?_linesOf_iff.2 h'.last] at lines
  exact Breakpoint.ext_line same (Option.some.inj lines).symm

theorem Of.floor_eq_ok_iff (h : c.Of rows) : c.floor raw = .ok b ↔ b.Governs rows raw := by
  rcases h.floor_cases raw with ⟨b', found, governs⟩ | ⟨refused, all⟩
  · rw [found, Except.ok.injEq]
    exact ⟨fun same => same ▸ governs, governs_unique governs⟩
  · rw [refused]
    refine iff_of_false nofun fun governs => ?_
    have := all b governs.last.mem
    have := governs.reached
    omega

theorem Of.level_of_governs (h : c.Of rows) (governs : b.Governs rows raw) :
    c.level raw = b.levelAt raw := by
  rw [level, h.floor_eq_ok_iff.2 governs]
  rfl

theorem Of.level_of_below (h : c.Of rows) (all : ∀ row ∈ rows, raw < row.points) :
    c.level raw = .error (.naming raw (.belowCurve raw c.lowest)) := by
  rcases h.floor_cases raw with ⟨b, -, governs⟩ | ⟨refused, -⟩
  · have := all b governs.last.mem
    have := governs.reached
    omega
  · rw [level, refused]
    rfl

theorem Of.level_calibrated (h : c.Of rows) (raw : Int) : Calibrated rows raw (c.level raw) := by
  rcases h.floor_cases raw with ⟨b, -, governs⟩ | ⟨-, all⟩
  · rw [h.level_of_governs governs]
    unfold Breakpoint.levelAt
    by_cases at_points : raw = b.points
    · rw [if_pos at_points]
      exact .hit governs at_points
    · have past : b.points < raw := by
        have := governs.reached
        omega
      rw [if_neg at_points]
      cases slope : b.slope == 0.0 with
      | true =>
        rw [if_pos rfl]
        by_cases long : Text.Overlong b.points
        · rw [Fault.naming_of_overlong long]
          exact .flatUnnamed governs past slope long
        · rw [Fault.naming_of_short long]
          exact .flat governs past slope long
      | false =>
        cases near : Number.ofInt? (raw - b.points) with
        | none => exact .far governs past slope ((Number.ofInt?_eq_none_iff _).1 near)
        | some distance => exact .between governs past slope near
  · rw [h.level_of_below all]
    by_cases long : Text.Overlong raw
    · rw [Fault.naming_of_overlong long]
      exact .belowUnnamed all long
    · rw [Fault.naming_of_short long]
      exact .below all h.lowest_lowest long

theorem Of.level_eq (h : c.Of rows) {outcome : Except Fault Float}
    (calibrated : Calibrated rows raw outcome) : c.level raw = outcome := by
  cases calibrated with
  | below all least short =>
    rw [h.level_of_below all, h.lowest_lowest.unique least, Fault.naming_of_short short]
  | belowUnnamed all long => rw [h.level_of_below all, Fault.naming_of_overlong long]
  | hit governs at_points =>
    rw [h.level_of_governs governs, Breakpoint.levelAt, if_pos at_points]
  | flat governs past zero short =>
    rw [h.level_of_governs governs, Breakpoint.levelAt, if_neg (by omega), if_pos zero,
      Fault.naming_of_short short]
  | flatUnnamed governs past zero long =>
    rw [h.level_of_governs governs, Breakpoint.levelAt, if_neg (by omega), if_pos zero,
      Fault.naming_of_overlong long]
  | far governs past sloped large =>
    rw [h.level_of_governs governs, Breakpoint.levelAt, if_neg (by omega),
      if_neg (by simp [sloped]), (Number.ofInt?_eq_none_iff _).2 large]
  | between governs past sloped near =>
    rw [h.level_of_governs governs, Breakpoint.levelAt, if_neg (by omega),
      if_neg (by simp [sloped]), near]

theorem Of.breakpoints (h : c.Of rows) : ∃ bs, c.breakpoints = .ok bs ∧
    bs.map (·.points) = c.keys ∧ ∀ b ∈ bs, b.LastOf rows := by
  have all : ∀ keys : List Int, (∀ p ∈ keys, p ∈ c.keys) → ∃ bs,
      keys.mapM c.breakpointAt = .ok bs ∧ bs.map (·.points) = keys ∧ ∀ b ∈ bs, b.LastOf rows := by
    intro keys
    induction keys with
    | nil => exact fun _ => ⟨[], rfl, rfl, nofun⟩
    | cons p keys ih =>
      intro known
      obtain ⟨b, found, isLast, at_points⟩ := h.breakpointAt (known p List.mem_cons_self)
      obtain ⟨bs, rest, points, each⟩ := ih fun q hq => known q (List.mem_cons_of_mem p hq)
      refine ⟨b :: bs, ?_, ?_, List.forall_mem_cons.2 ⟨isLast, each⟩⟩
      · rw [List.mapM_cons, found, rest]
        rfl
      · rw [List.map_cons, at_points, points]
  exact all c.keys fun _ => id

/-- A curve has one breakpoint to each points value of its rows, the last row there, at strictly rising
points. For any raw points its breakpoint is the row that a scan settles on, and its level, or the way
in which there is none, is what the rows give. -/
theorem ofRows_scan (present : rows ≠ []) :
    ∃ c bs, ofRows rows = .ok c ∧ c.breakpoints = .ok bs ∧ (∀ b ∈ bs, b.LastOf rows) ∧
      bs.map (·.points) = c.keys ∧ c.keys.Pairwise (· < ·) ∧
      (∀ p, p ∈ c.keys ↔ ∃ row ∈ rows, row.points = p) ∧
      ∀ raw, (∀ b, c.floor raw = .ok b ↔ b.Governs rows raw) ∧
        ∀ outcome, c.level raw = outcome ↔ Calibrated rows raw outcome := by
  obtain ⟨c, read, h⟩ := ofRows_ok present
  obtain ⟨bs, shown, points, each⟩ := h.breakpoints
  refine ⟨c, bs, read, shown, each, points, h.rising, fun _ => h.mem_keys_iff,
    fun raw => ⟨fun b => h.floor_eq_ok_iff, fun outcome => ⟨?_, h.level_eq⟩⟩⟩
  rintro rfl
  exact h.level_calibrated raw

def unsortedRows : List Breakpoint :=
  [⟨100, 10.0, 20.0⟩, ⟨200, 16.0, 0.0⟩, ⟨0, 0.0, 10.0⟩, ⟨100, 12.0, 25.0⟩]

theorem ofRows_scan_unsortedRows :
    unsortedRows ≠ [] ∧ ∃ c, ofRows unsortedRows = .ok c ∧ c.keys.Pairwise (· < ·) ∧
      c.level 150 = .ok (50.0 / 25.0 + 12.0) ∧ c.level 250 = .error (.zeroSlope 200) ∧
      c.level (-1) = .error (.belowCurve (-1) 0) := by
  have present : unsortedRows ≠ [] := List.cons_ne_nil _ _
  obtain ⟨c, -, read, -, -, -, rising, -, scan⟩ := ofRows_scan present
  have second : Breakpoint.Governs ⟨100, 12.0, 25.0⟩ unsortedRows 150 :=
    ⟨⟨unsortedRows.take 3, [], rfl, List.forall_mem_nil _⟩, by decide, by decide⟩
  have top : Breakpoint.Governs ⟨200, 16.0, 0.0⟩ unsortedRows 250 :=
    ⟨⟨unsortedRows.take 1, unsortedRows.drop 2, rfl, by decide⟩, by decide, by decide⟩
  have least : Lowest unsortedRows 0 := ⟨by decide, by decide⟩
  have near : Number.ofInt? (150 - 100) = some 50.0 := rfl
  have inner : Calibrated unsortedRows 150 (.ok (50.0 / 25.0 + 12.0)) :=
    @Calibrated.between _ _ ⟨100, 12.0, 25.0⟩ 50.0 second (by decide) rfl near
  have flat : Calibrated unsortedRows 250 (.error (.zeroSlope 200)) :=
    .flat top (by decide) rfl (Text.not_overlong_of_lt 3 (by decide) (by decide))
  have below : Calibrated unsortedRows (-1) (.error (.belowCurve (-1) 0)) :=
    .below (by decide) least (Text.not_overlong_of_lt 1 (by decide) (by decide))
  exact ⟨present, c, read, rising, ((scan 150).2 _).2 inner, ((scan 250).2 _).2 flat,
    ((scan (-1)).2 _).2 below⟩

def originRow (slope : Float) : List Breakpoint := [⟨0, 0.0, slope⟩]

def farPoints : Int := (Number.overflow : Int)

def deepPoints : Int := -((10 ^ Text.digitLimit : Nat) : Int)

/-- Not every distance that is too large is refused as such, nor are all points below the rows. -/
theorem level_not_exact :
    (¬ ∀ (rows : List Breakpoint) (raw : Int) (c : Curve) (b : Breakpoint), ofRows rows = .ok c →
      b.Governs rows raw → raw ≠ b.points →
      (c.level raw = .error .tooLargeForDouble ↔ Number.overflow ≤ (raw - b.points).natAbs)) ∧
    ¬ ∀ (rows : List Breakpoint) (raw : Int) (c : Curve), ofRows rows = .ok c →
      ((∃ lowest, c.level raw = .error (.belowCurve raw lowest)) ↔
        ∀ row ∈ rows, raw < row.points) := by
  constructor
  · intro exactly
    obtain ⟨c, read, h⟩ := ofRows_ok (List.cons_ne_nil _ _ : originRow 0.0 ≠ [])
    have past : 0 < farPoints := Int.natCast_pos.2 Number.overflow_pos
    have governs : Governs ⟨0, 0.0, 0.0⟩ (originRow 0.0) farPoints :=
      ⟨⟨[], [], rfl, nofun⟩, past.le, by simp [originRow]⟩
    have large : Number.overflow ≤ (farPoints - 0).natAbs := by
      rw [Int.sub_zero, farPoints, Int.natAbs_natCast]
    have refused := (exactly _ _ c _ read governs past.ne').2 large
    have short : ¬ Text.Overlong 0 := Text.not_overlong_of_lt 1 (by decide) (by decide)
    rw [h.level_eq (.flat governs past rfl short)] at refused
    cases refused
  · intro exactly
    obtain ⟨c, read, h⟩ := ofRows_ok (List.cons_ne_nil _ _ : originRow 1.0 ≠ [])
    have long : Text.Overlong deepPoints := by
      rw [Text.Overlong, deepPoints, Int.natAbs_neg, Int.natAbs_natCast]
    have all : ∀ row ∈ originRow 1.0, deepPoints < row.points := by
      have some_digits : 0 < 10 ^ Text.digitLimit := Nat.pow_pos (by decide)
      have negative : deepPoints < 0 := Int.neg_neg_of_pos (Int.natCast_pos.2 some_digits)
      simpa [originRow] using negative
    obtain ⟨lowest, refused⟩ := (exactly _ _ c read).2 all
    rw [h.level_eq (.belowUnnamed all long)] at refused
    cases refused

end Curve

end FuelTelemetry
