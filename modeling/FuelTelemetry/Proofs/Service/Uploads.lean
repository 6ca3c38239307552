import FuelTelemetry.Proofs.Ledger.History
import FuelTelemetry.Proofs.Ledger.Replay
import FuelTelemetry.Service.Routes

/-!
Runs of uploads that are all answered with 200. The ledger then holds the readings that processing
gave back, in their order, and every window the latest of those that are to be kept there.
-/

namespace FuelTelemetry

open Ledger (Position Records Settled)

namespace Reading

theorem ofFields_dated {fields : List (String × Json)} {r : Reading} (h : ofFields fields = .ok r) :
    r.time.isSome := by
  obtain ⟨device, -, h⟩ := Except.bind_ok h
  obtain ⟨time, -, h⟩ := Except.bind_ok h
  obtain ⟨payload, -, h⟩ := Except.bind_ok h
  obtain ⟨latitude, -, h⟩ := Except.bind_ok h
  obtain ⟨longitude, -, h⟩ := Except.bind_ok h
  obtain ⟨sensor, -, h⟩ := Except.bind_ok h
  obtain ⟨analog, -, h⟩ := Except.bind_ok h
  obtain ⟨event, -, h⟩ := Except.bind_ok h
  obtain ⟨level, -, h⟩ := Except.bind_ok h
  obtain ⟨id, -, h⟩ := Except.bind_ok h
  obtain rfl := Except.ok.inj h
  rfl

theorem ofJson_dated {json : Json} {r : Reading} (h : ofJson json = .ok r) : r.time.isSome := by
  unfold ofJson at h
  split at h
  · exact ofFields_dated h
  · cases h

theorem forall₂_ofJson {items : List Json} {rs : List Reading} (h : items.mapM ofJson = .ok rs) :
    List.Forall₂ (fun item r => ofJson item = .ok r) items rs := by
  induction items generalizing rs with
  | nil =>
    obtain rfl := Except.ok.inj h
    exact .nil
  | cons item items ih =>
    rw [List.mapM_cons] at h
    obtain ⟨r, first, h⟩ := Except.bind_ok h
    obtain ⟨rest, others, h⟩ := Except.bind_ok h
    obtain rfl := Except.ok.inj h
    exact .cons first (ih others)

theorem mapM_ofJson_dated {items : List Json} {rs : List Reading}
    (h : items.mapM ofJson = .ok rs) : ∀ r ∈ rs, r.time.isSome := by
  have readings := forall₂_ofJson h
  clear h
  induction readings with
  | nil => simp
  | cons first _ ih => exact List.forall_mem_cons.2 ⟨ofJson_dated first, ih⟩

theorem mapM_ofJson_ok {items : List Json} (readable : ∀ item ∈ items, ∃ r, ofJson item = .ok r) :
    ∃ rs, items.mapM ofJson = .ok rs := by
  induction items with
  | nil => exact ⟨[], rfl⟩
  | cons item items ih =>
    have others := ih fun x hx => readable x (List.mem_cons_of_mem item hx)
    rw [List.mapM_cons]
    exact Except.bind_total (readable item List.mem_cons_self) fun r =>
      Except.bind_total others fun rs => ⟨r :: rs, rfl⟩

end Reading

namespace Service

def processed (s : Service) : Body → List Result
  | .absent | .tooDeep => []
  | .value value =>
    match (itemsOf value).mapM Reading.ofJson with
    | .error _ => []
    | .ok rs => (s.processor.processAll Ledger.collaborators .live s.ledger rs).1.2

theorem rejection_status (fault : Fault) : (rejection fault).status ≠ 200 := by
  unfold rejection
  split <;> simp [Answer.incident, Answer.unexpected, Answer.bare]

theorem storeFailure_status (fault : Fault) : (storeFailure fault).status ≠ 200 := by
  unfold storeFailure
  split <;> simp [Answer.incident, Answer.unexpected, Answer.bare]

structure Accepted (s : Service) (rs : List Reading) (after : Service) (results : List Result) :
    Prop where
  processed : (s.processor.processAll Ledger.collaborators .live s.ledger rs).1 =
    (after.processor, results)
  stored : (s.processor.processAll Ledger.collaborators .live s.ledger rs).2.storeReadings
    (results.map (·.reading)) = .ok after.ledger
  paging : after.paging = s.paging

theorem Accepted.accept_eq {s after : Service} {rs : List Reading} {results : List Result}
    (h : Accepted s rs after results) : s.accept rs = (after, .ok (uploadJson results)) := by
  obtain ⟨processed, stored, paging⟩ := h
  unfold accept
  generalize s.processor.processAll Ledger.collaborators .live s.ledger rs = done
    at processed stored ⊢
  obtain ⟨⟨processor, found⟩, ledger⟩ := done
  obtain ⟨rfl, rfl⟩ := Prod.mk.inj processed
  simp only at stored ⊢
  rw [stored, ← paging]

theorem accept_ok_iff {s : Service} {rs : List Reading} :
    (s.accept rs).2.status = 200 ↔ ∃ after results, Accepted s rs after results := by
  constructor
  · intro answered
    unfold accept at answered
    cases stored : (s.processor.processAll Ledger.collaborators .live s.ledger rs).2.storeReadings
        ((s.processor.processAll Ledger.collaborators .live s.ledger rs).1.2.map (·.reading)) with
    | error fault =>
      simp only [stored] at answered
      exact absurd answered (storeFailure_status fault)
    | ok ledger => exact ⟨{ s with processor := _, ledger }, _, ⟨rfl, stored, rfl⟩⟩
  · rintro ⟨after, results, accepted⟩
    rw [accepted.accept_eq]
    rfl

theorem upload_accepted {s : Service} {body : Body} (h : (s.upload body).2.status = 200) :
    ∃ value rs after results, body = .value value ∧
      (itemsOf value).mapM Reading.ofJson = .ok rs ∧ Accepted s rs after results ∧
      s.processed body = results ∧ s.upload body = (after, .ok (uploadJson results)) := by
  cases body with
  | absent => simp [upload, Answer.incident] at h
  | tooDeep => simp [upload, Answer.unexpected, Answer.bare] at h
  | value value =>
    simp only [upload, processed] at h ⊢
    cases items : (itemsOf value).mapM Reading.ofJson with
    | error fault =>
      rw [items] at h
      exact absurd h (rejection_status fault)
    | ok rs =>
      simp only [items] at h ⊢
      obtain ⟨after, results, accepted⟩ := accept_ok_iff.1 h
      exact ⟨value, rs, after, results, rfl, items, accepted,
        congrArg Prod.snd accepted.processed, accepted.accept_eq⟩

def uploadAll (s : Service) : List Body → Service × List Answer × List Result
  | [] => (s, [], [])
  | body :: rest =>
    let results := s.processed body
    let (s, answer) := s.upload body
    let (s, answers, others) := s.uploadAll rest
    (s, answer :: answers, results ++ others)

/-- A service that started with this ledger and new windows and has stored these readings since. -/
structure Holding (settings : Settings) (l : Ledger) (s : Service) (rs : List Reading) : Prop where
  sound : s.processor.Sound settings
  alike : l.Alike s.ledger
  records : ∃ rows, s.ledger.positions = some rows ∧ Records rs rows
  settled : ∀ r ∈ rs, Settled (l.assignment r)
  holds : ∀ key, (s.processor.windows.window key).Holds settings.capacity (rs.filter (l.keeps key))

def started (settings : Settings) (l : Ledger) (paging : Paging) : Service :=
  ⟨.new settings, l, paging⟩

theorem holding_started {settings : Settings} {l : Ledger} (empty : l.positions = some [])
    (paging : Paging) : Holding settings l (started settings l paging) [] where
  sound := Processor.sound_new settings
  alike := ⟨rfl, rfl⟩
  records := ⟨[], empty, .nil⟩
  settled := by simp
  holds _ := Window.holds_empty _

variable {settings : Settings} {l : Ledger} {s : Service} {rs : List Reading}

theorem Holding.upload (h : Holding settings l s rs) {body : Body}
    (answered : (s.upload body).2.status = 200)
    (expected : ∀ done ∈ s.processed body, done.outcome.reason ≠ some "unexpected_error") :
    Holding settings l (s.upload body).1 (rs ++ (s.processed body).map (·.reading)) := by
  obtain ⟨value, given, after, results, rfl, read, accepted, processed, uploaded⟩ :=
    upload_accepted answered
  obtain ⟨run, stored, -⟩ := accepted
  have dated := Reading.mapM_ofJson_dated read
  have same : after.processor = _ := (congrArg Prod.fst run).symm
  obtain rfl : _ = results := congrArg Prod.snd run
  rw [processed] at expected ⊢
  rw [uploaded]
  obtain ⟨rows, positions, records⟩ := h.records
  have beside := Ledger.processAll_upToActivities s.processor .live given s.ledger
  obtain ⟨more, sameLedger, recorded⟩ :=
    Ledger.storeReadings_ok stored (beside.positions.trans positions)
  obtain ⟨settled, holds⟩ := Ledger.holds_processAll h.sound dated expected
  rw [h.alike.assignment_eq] at settled
  rw [h.alike.keeps_eq] at holds
  exact {
    sound := same ▸ h.sound.processAll Ledger.collaborators .live dated s.ledger
    alike := sameLedger ▸ h.alike.trans ⟨beside.sensors, beside.curves⟩
    records := ⟨rows ++ more, by rw [sameLedger], records.append recorded⟩
    settled := fun r hr => by
      rcases List.mem_append.1 hr with hr | hr
      · exact h.settled r hr
      · obtain ⟨done, given, rfl⟩ := List.mem_map.1 hr
        exact settled done given
    holds := fun key => by
      rw [same, List.filter_append]
      exact holds key _ (h.holds key) }

theorem Holding.uploadAll (h : Holding settings l s rs) {bodies : List Body}
    (answered : ∀ answer ∈ (s.uploadAll bodies).2.1, answer.status = 200)
    (expected : ∀ done ∈ (s.uploadAll bodies).2.2,
      done.outcome.reason ≠ some "unexpected_error") :
    Holding settings l (s.uploadAll bodies).1
      (rs ++ (s.uploadAll bodies).2.2.map (·.reading)) := by
  induction bodies generalizing s rs with
  | nil => simpa [Service.uploadAll] using h
  | cons body rest ih =>
    simp only [Service.uploadAll, List.forall_mem_cons, List.forall_mem_append]
      at answered expected
    simp only [Service.uploadAll, List.map_append, ← List.append_assoc]
    exact ih (h.upload answered.1 expected.1) answered.2 expected.2

def Request.Posts (r : Request) : Prop :=
  r.method.toUpper = "POST" ∧ r.target.path = "/api/fuel/readings".toList

theorem respond_posts {s : Service} {r : Request} (posts : r.Posts)
    (h : (s.respond r).2.status = 200) : s.respond r = s.upload r.json := by
  obtain ⟨method, path⟩ := posts
  have route : Route.ofPath? r.target.path = some .readings := by
    rw [path, Route.ofPath?, if_pos rfl]
  have offered : Route.methods .readings = ["POST", "OPTIONS"] := rfl
  unfold respond at h ⊢
  simp only [method, matchRoute, route, Route.ask, offered] at h ⊢
  cases fit : Authority.labelsFit r.target.host with
  | false => simp [fit, Answer.bare] at h
  | true =>
    cases socket : r.target.socket with
    | true => simp [fit, socket, Answer.bare] at h
    | false => simp [serve]

def respondAll (s : Service) : List Request → Service × List Answer
  | [] => (s, [])
  | r :: rest =>
    let (s, answer) := s.respond r
    let (s, answers) := s.respondAll rest
    (s, answer :: answers)

/-- Requests that post readings and are answered with 200 are uploads of their bodies. -/
theorem respondAll_posts {requests : List Request} (posts : ∀ r ∈ requests, r.Posts)
    (answered : ∀ answer ∈ (s.respondAll requests).2, answer.status = 200) :
    s.respondAll requests = ((s.uploadAll (requests.map Request.json)).1,
      (s.uploadAll (requests.map Request.json)).2.1) := by
  induction requests generalizing s with
  | nil => rfl
  | cons r rest ih =>
    simp only [respondAll, List.forall_mem_cons] at answered
    have uploaded := respond_posts (posts r List.mem_cons_self) answered.1
    simp only [respondAll, List.map_cons, uploadAll]
    rw [uploaded] at answered ⊢
    rw [ih (fun x hx => posts x (List.mem_cons_of_mem r hx)) answered.2]

end Service

end FuelTelemetry
