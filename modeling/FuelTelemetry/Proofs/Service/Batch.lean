import FuelTelemetry.Proofs.Processing.Forward
import FuelTelemetry.Proofs.Processing.Results
import FuelTelemetry.Proofs.Service.Accepting
import FuelTelemetry.Proofs.Service.Rebuild

/-!
A list of readings in one upload, and the same readings each in an upload of its own. The list is
processed as a whole before any of it is stored, and singly each reading is stored before the next
one is processed. Both come to the same, for processing does not look at stored readings.
-/

namespace FuelTelemetry

namespace Service

def uploadEach (s : Service) : List Json → Service × List Answer
  | [] => (s, [])
  | value :: rest =>
    let (s, answer) := s.upload (.value value)
    let (s, answers) := s.uploadEach rest
    (s, answer :: answers)

variable {s after : Service} {item : Json} {items : List Json} {r : Reading} {rs : List Reading}
  {results : List Result}

/-- A reading is no list, and so is uploaded as the one item. -/
theorem upload_item (read : Reading.ofJson item = .ok r) :
    s.upload (.value item) = s.accept [r] := by
  have single : itemsOf item = [item] := by
    cases item with
    | list items => cases read
    | _ => rfl
  have readAll : [item].mapM Reading.ofJson = .ok [r] := by
    rw [List.mapM_cons, read]
    rfl
  simp only [upload, single, readAll]

theorem Accepted.uploadEach_eq (h : Accepted s rs after results)
    (read : items.mapM Reading.ofJson = .ok rs) :
    s.uploadEach items = (after, answersTo (results.map fun result => [result])) := by
  induction items generalizing s rs results with
  | nil =>
    obtain rfl := Except.ok.inj read
    obtain ⟨rfl, rfl⟩ := accepted_nil_iff.1 h
    rfl
  | cons item items ih =>
    rw [List.mapM_cons] at read
    obtain ⟨r, first, read⟩ := Except.bind_ok read
    obtain ⟨others, rest, read⟩ := Except.bind_ok read
    obtain rfl := Except.ok.inj read
    obtain ⟨between, result, more, one, all, rfl⟩ := accepted_cons_iff.1 h
    simp only [uploadEach, upload_item first, one.accept_eq, ih all rest, answersTo, List.map_cons]

theorem accepted_of_uploadEach (read : items.mapM Reading.ofJson = .ok rs)
    (answered : ∀ answer ∈ (s.uploadEach items).2, answer.status = 200) :
    ∃ after results, Accepted s rs after results := by
  induction items generalizing s rs with
  | nil =>
    obtain rfl := Except.ok.inj read
    exact ⟨s, [], accepted_nil_iff.2 ⟨rfl, rfl⟩⟩
  | cons item items ih =>
    rw [List.mapM_cons] at read
    obtain ⟨r, first, read⟩ := Except.bind_ok read
    obtain ⟨others, rest, read⟩ := Except.bind_ok read
    obtain rfl := Except.ok.inj read
    simp only [uploadEach, upload_item first, List.forall_mem_cons] at answered
    obtain ⟨head, tail⟩ := answered
    obtain ⟨between, results, one⟩ := accept_ok_iff.1 head
    obtain ⟨result, rfl⟩ : ∃ result, results = [result] :=
      ⟨_, (congrArg Prod.snd one.processed).symm⟩
    rw [one.accept_eq] at tail
    obtain ⟨after, more, all⟩ := ih rest tail
    exact ⟨after, _, accepted_cons_iff.2 ⟨between, result, more, one, all, rfl⟩⟩

/-- A list of readings is stored in one upload exactly if each of them is in an upload of its own,
with the same service afterwards, and the answer to the list joins the answers to its items. -/
theorem upload_list_eq_uploadEach (s : Service) {items : List Json}
    (readable : ∀ item ∈ items, ∃ r, Reading.ofJson item = .ok r) :
    ((s.upload (.value (.list items))).2.status = 200 ↔
      ∀ answer ∈ (s.uploadEach items).2, answer.status = 200) ∧
    ((s.upload (.value (.list items))).2.status = 200 →
      (s.upload (.value (.list items))).1 = (s.uploadEach items).1 ∧
      (s.upload (.value (.list items))).2.body = some (.object
        [("readings", .list ((s.uploadEach items).2.flatMap (Answer.listed "readings"))),
         ("activities", .list ((s.uploadEach items).2.flatMap (Answer.listed "activities")))])) := by
  obtain ⟨rs, read⟩ := Reading.mapM_ofJson_ok readable
  have together : s.upload (.value (.list items)) = s.accept rs := by
    simp only [upload, itemsOf, read]
  rw [together]
  refine ⟨⟨fun answered => ?_, fun answered => ?_⟩, fun answered => ?_⟩
  · obtain ⟨after, results, accepted⟩ := accept_ok_iff.1 answered
    rw [accepted.uploadEach_eq read]
    simp [answersTo, Answer.ok]
  · exact accept_ok_iff.2 (accepted_of_uploadEach read answered)
  · obtain ⟨after, results, accepted⟩ := accept_ok_iff.1 answered
    rw [accepted.uploadEach_eq read, accepted.accept_eq]
    have each : (results.map fun result => [result]).flatten = results := by
      rw [← List.flatMap_def, List.flatMap_singleton']
    rw [flatMap_listed_readings, flatMap_listed_activities, each]
    exact ⟨rfl, rfl⟩

end Service

def Json.ofTank (minute : Nat) (analog : Int) (level : Option Float) : Json :=
  .object [("device_id", .int 1), ("time", .int (60000 * minute)), ("adc1", .int analog),
    ("fuel_level", .ofOption .float level)]

def Json.lateRise : List Json :=
  [.ofTank 101 0 (some 20.0), .ofTank 102 0 (some 20.0), .ofTank 103 0 (some 20.0),
    .ofTank 104 0 (some 40.0), .ofTank 105 0 (some 20.0), .ofTank 106 0 (some 10.0),
    .ofTank 107 200 none, .ofTank 400 3500 none]

theorem Json.lateRise_readable : ∀ item ∈ Json.lateRise, ∃ r, Reading.ofJson item = .ok r := by
  have read : ∀ item ∈ Json.lateRise, (Reading.ofJson item).toOption.isSome := by decide +kernel
  intro item listed
  have given := read item listed
  cases found : Reading.ofJson item with
  | ok r => exact ⟨r, rfl⟩
  | error fault =>
    rw [found] at given
    cases given

namespace Service

def oneTank : Service := started .eightAtOnce .oneTank ⟨10, 100⟩

theorem upload_lateRise_eq_uploadEach :
    (∀ item ∈ Json.lateRise, ∃ r, Reading.ofJson item = .ok r) ∧
      (oneTank.upload (.value (.list Json.lateRise))).2.status = 200 ∧
      (oneTank.upload (.value (.list Json.lateRise))).1 = (oneTank.uploadEach Json.lateRise).1 ∧
      ((oneTank.uploadEach Json.lateRise).2.flatMap (Answer.listed "activities")).length = 1 := by
  have answered : (oneTank.upload (.value (.list Json.lateRise))).2.status = 200 := by
    decide +kernel
  exact ⟨Json.lateRise_readable, answered,
    ((upload_list_eq_uploadEach oneTank Json.lateRise_readable).2 answered).1, by decide +kernel⟩

end Service

end FuelTelemetry
