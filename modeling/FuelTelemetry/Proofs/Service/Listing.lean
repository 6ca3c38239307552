import FuelTelemetry.Proofs.Ledger.Listing
import FuelTelemetry.Proofs.Service.Batch

/-!
The listing of activities after uploads. It has all activities that the uploads were answered with,
each once and as it was answered, the newest first, as far as they are asked for.
-/

namespace FuelTelemetry

open Time (Stamp)
open Ledger (ActivityRow Published)

namespace Json

inductive Alike : Json → Json → Prop where
  | same (value : Json) : Alike value value
  | float {x y : Float} (equal : (x == y) = true) : Alike (.float x) (.float y)

theorem alike_ofOption {x : Option Float} (number : ∀ y ∈ x, (y == y) = true) :
    (ofOption float x).Alike (ofOption float (Ledger.storedFloat x)) := by
  have equal := Ledger.beq_storedFloat number
  cases x with
  | none => exact .same null
  | some y =>
    obtain ⟨z, stored⟩ := Option.isSome_iff_exists.1 (Ledger.storedFloat_isSome number)
    rw [stored] at equal ⊢
    exact .float equal

def Holds (shown : Json) (name : String) (value : Json) : Prop :=
  ∃ listed, shown.field? name = some listed ∧ value.Alike listed

def isNaN : Json → Bool
  | float x => !(x == x)
  | _ => false

def Numeric (names : List String) (value : Json) : Prop :=
  ∀ name ∈ names, ∀ field ∈ value.field? name, field.isNaN = false

instance (names : List String) (value : Json) : Decidable (value.Numeric names) :=
  inferInstanceAs (Decidable (∀ name ∈ names, ∀ field ∈ value.field? name, field.isNaN = false))

theorem Numeric.of_field {names : List String} {value : Json} (h : value.Numeric names)
    {name : String} (listed : name ∈ names) {x : Option Float}
    (field : value.field? name = some (ofOption float x)) : ∀ y ∈ x, (y == y) = true := by
  rintro y rfl
  simpa [isNaN, ofOption] using h name listed _ field

end Json

namespace Activity

def coordinates : List String :=
  ["start_latitude", "start_longitude", "end_latitude", "end_longitude"]

def Newer (x y : Nat × Activity) : Prop :=
  ∃ t u, x.2.startTime = some (Stamp.ofInstant t) ∧ y.2.startTime = some (Stamp.ofInstant u) ∧
    (u < t ∨ (t = u ∧ y.1 < x.1))

def of (device : Option Int) (a : Activity) : Bool :=
  device.all (a.device = some ·)

structure Shows (a : Activity) (shown : Json) : Prop where
  kind : shown.field? "activity_type" = some (.text a.kind.word)
  device : shown.field? "device_id" = some (.ofOption .int a.device)
  sensor : shown.field? "sensor_id" = some (.ofOption .int a.sensor)
  volume : shown.Holds "change_volume" (.float a.volume)
  startTime : shown.field? "start_time" = some (.ofOption (fun s => .text s.text) a.startTime)
  endTime : shown.field? "end_time" = some (.ofOption (fun s => .text s.text) a.endTime)
  startLatitude : shown.Holds "start_latitude" (.ofOption .float a.startLatitude)
  startLongitude : shown.Holds "start_longitude" (.ofOption .float a.startLongitude)
  endLatitude : shown.Holds "end_latitude" (.ofOption .float a.endLatitude)
  endLongitude : shown.Holds "end_longitude" (.ofOption .float a.endLongitude)

structure Relisted (x : Nat × Activity) (shown : Json) : Prop where
  id : shown.field? "id" = some (.int x.1)
  listed : x.2.Shows shown
  answered : x.2.Shows x.2.toJson

theorem field?_toJson {a : Activity} {name : String} {value : Json}
    (listed : (name, value) ∈ a.fields) : a.toJson.field? name = some value :=
  Table.get?_of_mem (by simp [Table.keys, Activity.fields]) listed

theorem field?_row {row : ActivityRow} {n : Nat} {name : String} {value : Json}
    (listed : (name, value) ∈ row.fields n) :
    (Json.object (row.fields n)).field? name = some value :=
  Table.get?_of_mem (by simp [Table.keys, ActivityRow.fields]) listed

theorem shows_toJson (a : Activity) : a.Shows a.toJson := by
  have exactly {name : String} {value : Json} (listed : (name, value) ∈ a.fields) :
      a.toJson.Holds name value := ⟨value, field?_toJson listed, .same value⟩
  constructor <;>
    first
    | exact field?_toJson (by simp [Activity.fields])
    | exact exactly (by simp [Activity.fields])

theorem shows_row {a : Activity} {row : ActivityRow} (h : Published a row)
    (numeric : a.toJson.Numeric coordinates) (n : Nat) : a.Shows (.object (row.fields n)) := by
  have coordinate {name : String} (listed : name ∈ coordinates) {x : Option Float}
      (given : (name, .ofOption .float x) ∈ a.fields) {y : Option Float}
      (stored : y = Ledger.storedFloat x) (kept : (name, .ofOption .float y) ∈ row.fields n) :
      (Json.object (row.fields n)).Holds name (.ofOption .float x) := by
    subst stored
    exact ⟨_, field?_row kept, Json.alike_ofOption (numeric.of_field listed (field?_toJson given))⟩
  exact {
    kind := field?_row (by simp [ActivityRow.fields, h.kind])
    device := field?_row (by simp [ActivityRow.fields, h.device, Json.ofOption])
    sensor := field?_row (by simp [ActivityRow.fields, h.sensor, Json.ofOption])
    volume := ⟨.float row.volume, field?_row (by simp [ActivityRow.fields]), .float h.volume⟩
    startTime := field?_row (by simp [ActivityRow.fields, h.startTime, Json.ofOption])
    endTime := field?_row (by simp [ActivityRow.fields, h.endTime, Json.ofOption])
    startLatitude := coordinate (by simp [coordinates]) (by simp [Activity.fields])
      h.startLatitude (by simp [ActivityRow.fields])
    startLongitude := coordinate (by simp [coordinates]) (by simp [Activity.fields])
      h.startLongitude (by simp [ActivityRow.fields])
    endLatitude := coordinate (by simp [coordinates]) (by simp [Activity.fields])
      h.endLatitude (by simp [ActivityRow.fields])
    endLongitude := coordinate (by simp [coordinates]) (by simp [Activity.fields])
      h.endLongitude (by simp [ActivityRow.fields]) }

theorem relisted_of_published {a : Activity} {row : ActivityRow} (h : Published a row)
    (numeric : a.toJson.Numeric coordinates) (n : Nat) :
    Relisted (n, a) (.object (row.fields n)) where
  id := field?_row (by simp [ActivityRow.fields])
  listed := shows_row h numeric n
  answered := shows_toJson a

end Activity

theorem Ledger.Published.of_eq {a : Activity} {row : ActivityRow} (h : Published a row)
    (device : Option Int) : a.of device = row.of device := by
  simp only [Activity.of, ActivityRow.of, h.device, Option.some.injEq, eq_comm]

namespace Service

open Ledger (numbered InRange)

structure Listable (s : Service) (t : Target) : Prop where
  device : ∀ n ∈ intValue? t "device_id", InRange n
  limit : InRange (s.paging.limit (intValue? t "limit"))

theorem listable_iff {s : Service} {t : Target} : Listable s t ↔
    Ledger.allFit [intValue? t "device_id", some (s.paging.limit (intValue? t "limit") : Int)] =
      .ok () := by
  rw [Ledger.allFit_iff]
  constructor
  · rintro ⟨device, limit⟩
    simpa using ⟨device, limit⟩
  · intro fit
    simp only [List.forall_mem_cons] at fit
    exact ⟨fit.1, fit.2.1 _ rfl⟩

variable {settings : Settings} {s after : Service} {rs : List Reading} {results : List Result}
  {rows : List ActivityRow}

theorem Accepted.activities (h : Accepted s rs after results) (ready : s.processor.Ready settings)
    (dated : ∀ r ∈ rs, r.time.isSome) (activities : s.ledger.activities = some rows) :
    after.processor.Ready settings ∧ ∃ more, after.ledger.activities = some (rows ++ more) ∧
      List.Forall₂ Published (results.filterMap (·.outcome.activity)) more := by
  obtain ⟨more, stored, published⟩ :=
    Ledger.processAll_activities .live ready dated activities
  have next := ready.processAll Ledger.collaborators .live dated s.ledger
  obtain ⟨positions, -, ledger⟩ := Ledger.storeReadings_ok_iff.1 h.stored
  rw [h.processed] at next published
  exact ⟨next, more, by rw [ledger]; exact stored, published⟩

theorem uploadEach_activities {values : List Json} (ready : s.processor.Ready settings)
    (activities : s.ledger.activities = some rows)
    (answered : ∀ answer ∈ (s.uploadEach values).2, answer.status = 200) :
    (s.uploadEach values).1.paging = s.paging ∧ ∃ found more,
      (s.uploadEach values).2.flatMap (Answer.listed "activities") = found.map Activity.toJson ∧
      (s.uploadEach values).1.ledger.activities = some (rows ++ more) ∧
      List.Forall₂ Published found more := by
  induction values generalizing s rows with
  | nil => exact ⟨rfl, [], [], rfl, by rw [List.append_nil]; exact activities, .nil⟩
  | cons value rest ih =>
    simp only [uploadEach, List.forall_mem_cons] at answered ⊢
    obtain ⟨head, tail⟩ := answered
    obtain ⟨_, rs, after, results, -, read, accepted, -, uploaded⟩ := upload_accepted head
    rw [uploaded] at tail ⊢
    obtain ⟨next, more, stored, published⟩ :=
      accepted.activities ready (Reading.mapM_ofJson_dated read) activities
    obtain ⟨paging, found, others, listed, storedAll, publishedAll⟩ := ih next stored tail
    refine ⟨paging.trans accepted.paging, results.filterMap (·.outcome.activity) ++ found,
      more ++ others, ?_, ?_, List.rel_append published publishedAll⟩
    · rw [List.flatMap_cons, listed, List.map_append]
      rfl
    · rw [← List.append_assoc]
      exact storedAll

theorem listing_eq (activities : s.ledger.activities = some rows) {t : Target}
    (listable : Listable s t) :
    listing s t = .ok (.list (((Ledger.newestFirst ActivityRow.startTime
      ((numbered rows).filter fun x => x.2.of (intValue? t "device_id"))).take
        (s.paging.limit (intValue? t "limit"))).map fun x => .object (x.2.fields x.1))) := by
  simp only [listing, Ledger.listActivities_eq activities (listable_iff.1 listable)]

theorem listing_unlistable (activities : s.ledger.activities = some rows) {t : Target}
    (unlistable : ¬ Listable s t) : listing s t = .unexpected := by
  cases fit : Ledger.allFit
      [intValue? t "device_id", some (s.paging.limit (intValue? t "limit") : Int)] with
  | ok => exact absurd (listable_iff.2 fit) unlistable
  | error fault => simp only [listing, Ledger.listActivities_error activities fit]

theorem listing_published {found : List Activity} (activities : s.ledger.activities = some rows)
    (published : List.Forall₂ Published found rows)
    (numeric : ∀ a ∈ found, a.toJson.Numeric Activity.coordinates) (t : Target) :
    ∃ ordered : List (Nat × Activity),
      ordered.Perm ((numbered found).filter fun x => x.2.of (intValue? t "device_id")) ∧
      ordered.Pairwise Activity.Newer ∧
      (Listable s t → ∃ shown, listing s t = .ok (.list shown) ∧
        List.Forall₂ Activity.Relisted
          (ordered.take (s.paging.limit (intValue? t "limit"))) shown) := by
  -- activities and rows are numbered and sorted side by side
  let both := numbered (found.zip rows)
  have lengths := published.length_eq
  have founds : numbered found = both.map (Prod.map id Prod.fst) := by
    rw [← Ledger.numbered_map, List.map_fst_zip (Nat.le_of_eq lengths)]
  have placed : numbered rows = both.map (Prod.map id Prod.snd) := by
    rw [← Ledger.numbered_map, List.map_snd_zip (Nat.le_of_eq lengths.symm)]
  have zipped : ∀ x ∈ both, x.2 ∈ found.zip rows := by
    intro x hx
    obtain ⟨y, hy, rfl⟩ := List.mem_map.1 hx
    exact List.fst_mem_of_mem_zipIdx hy
  have pairs : ∀ x ∈ both, Published x.2.1 x.2.2 :=
    fun x hx => List.forall₂_zip published (zipped x hx)
  let wanted := both.filter fun x => x.2.2.of (intValue? t "device_id")
  let sorted := Ledger.newestFirst (fun x : Activity × ActivityRow => x.2.startTime) wanted
  have perm : sorted.Perm wanted := Ledger.newestFirst_perm wanted
  have known : ∀ x ∈ sorted, x ∈ both := fun x hx => List.mem_of_mem_filter (perm.mem_iff.1 hx)
  refine ⟨sorted.map (Prod.map id Prod.fst), ?_, ?_, fun listable => ?_⟩
  · have same : wanted = both.filter fun x => x.2.1.of (intValue? t "device_id") :=
      List.filter_congr fun x hx => ((pairs x hx).of_eq _).symm
    rw [founds, List.filter_map]
    exact (same ▸ perm).map _
  · have numbers := (Ledger.pairwise_numbered (found.zip rows)).filter
      fun x => x.2.2.of (intValue? t "device_id")
    refine List.pairwise_map.2 ((Ledger.newestFirst_pairwise numbers).imp_of_mem ?_)
    intro x y hx hy newer
    exact ⟨_, _, (pairs x (known x hx)).startTime, (pairs y (known y hy)).startTime, newer⟩
  · have listed : Ledger.newestFirst ActivityRow.startTime
        ((numbered rows).filter fun x => x.2.of (intValue? t "device_id")) =
          sorted.map (Prod.map id Prod.snd) := by
      rw [placed, List.filter_map, Ledger.newestFirst_map]
      rfl
    rw [listing_eq activities listable, listed]
    refine ⟨_, rfl, ?_⟩
    rw [← List.map_take, ← List.map_take, List.map_map, List.forall₂_map_left_iff,
      List.forall₂_map_right_iff, List.forall₂_same]
    intro x hx
    have there := known x (List.mem_of_mem_take hx)
    exact Activity.relisted_of_published (pairs x there)
      (numeric x.2.1 (List.of_mem_zip (zipped x there)).1) x.1

/-- After accepted uploads to an empty table the listing has the activities that they were answered
with. It fails for numbers that do not fit in 64 bits. -/
theorem listing_uploadEach (reachable : Processor.Reachable settings s.processor)
    (empty : s.ledger.activities = some []) {values : List Json}
    (answered : ∀ answer ∈ (s.uploadEach values).2, answer.status = 200)
    (numeric : ∀ found ∈ (s.uploadEach values).2.flatMap (Answer.listed "activities"),
      found.Numeric Activity.coordinates) (t : Target) :
    ∃ (found : List Activity) (ordered : List (Nat × Activity)),
      (s.uploadEach values).2.flatMap (Answer.listed "activities") = found.map Activity.toJson ∧
      ordered.Perm ((numbered found).filter fun x => x.2.of (intValue? t "device_id")) ∧
      ordered.Pairwise Activity.Newer ∧
      (Listable s t → ∃ shown, listing (s.uploadEach values).1 t = .ok (.list shown) ∧
        List.Forall₂ Activity.Relisted
          (ordered.take (s.paging.limit (intValue? t "limit"))) shown) ∧
      (¬ Listable s t → listing (s.uploadEach values).1 t = .unexpected) := by
  obtain ⟨paging, found, rows, listed, activities, published⟩ :=
    uploadEach_activities reachable.ready empty answered
  have same : Listable (s.uploadEach values).1 t ↔ Listable s t := by
    rw [listable_iff, listable_iff, paging]
  rw [List.nil_append] at activities
  rw [listed, List.forall_mem_map] at numeric
  obtain ⟨ordered, perm, newer, shows⟩ := listing_published activities published numeric t
  rw [same, paging] at shows
  exact ⟨found, ordered, listed, perm, newer, shows, fun unlistable =>
    listing_unlistable activities fun listable => unlistable (same.1 listable)⟩

def Target.ofDevice (device : String) : Target :=
  ⟨"/api/fuel/activities".toList, [(some "device_id", some device)], "localhost".toList, false⟩

theorem listing_not_total :
    ¬ ∀ (settings : Settings) (s : Service), Processor.Reachable settings s.processor →
      s.ledger.activities = some [] → ∀ values : List Json,
      (∀ answer ∈ (s.uploadEach values).2, answer.status = 200) →
      (∀ found ∈ (s.uploadEach values).2.flatMap (Answer.listed "activities"),
        found.Numeric Activity.coordinates) →
      ∀ t, ∃ (found : List Activity) (ordered : List (Nat × Activity)) (shown : List Json),
        (s.uploadEach values).2.flatMap (Answer.listed "activities") =
          found.map Activity.toJson ∧
        ordered.Perm ((numbered found).filter fun x => x.2.of (intValue? t "device_id")) ∧
        ordered.Pairwise Activity.Newer ∧
        listing (s.uploadEach values).1 t = .ok (.list shown) ∧
        List.Forall₂ Activity.Relisted
          (ordered.take (s.paging.limit (intValue? t "limit"))) shown := by
  intro claim
  obtain ⟨_, _, shown, -, -, -, listed, -⟩ := claim .eightAtOnce oneTank .new rfl []
    (by simp [uploadEach]) (by simp [uploadEach]) (.ofDevice "9223372036854775808")
  have failed : (listing oneTank (.ofDevice "9223372036854775808")).status = 500 := by
    decide +kernel
  rw [show listing oneTank _ = _ from listed] at failed
  cases failed

theorem listing_uploadEach_lateRise :
    Processor.Reachable .eightAtOnce oneTank.processor ∧ oneTank.ledger.activities = some [] ∧
      (∀ answer ∈ (oneTank.uploadEach Json.lateRise).2, answer.status = 200) ∧
      (∀ found ∈ (oneTank.uploadEach Json.lateRise).2.flatMap (Answer.listed "activities"),
        found.Numeric Activity.coordinates) ∧
      Listable oneTank (.ofDevice "1") ∧
      ∃ (found : List Activity) (ordered : List (Nat × Activity)) (shown : List Json),
        (oneTank.uploadEach Json.lateRise).2.flatMap (Answer.listed "activities") =
          found.map Activity.toJson ∧
        ordered.Perm ((numbered found).filter fun x => x.2.of (some 1)) ∧
        ordered.Pairwise Activity.Newer ∧
        listing (oneTank.uploadEach Json.lateRise).1 (.ofDevice "1") = .ok (.list shown) ∧
        List.Forall₂ Activity.Relisted (ordered.take 10) shown := by
  have answered : ∀ answer ∈ (oneTank.uploadEach Json.lateRise).2, answer.status = 200 := by
    decide +kernel
  have numeric : ∀ found ∈
      (oneTank.uploadEach Json.lateRise).2.flatMap (Answer.listed "activities"),
      found.Numeric Activity.coordinates := by
    decide +kernel
  have listable : Listable oneTank (.ofDevice "1") := ⟨by decide +kernel, by decide +kernel⟩
  obtain ⟨found, ordered, listed, perm, newer, shows, -⟩ :=
    listing_uploadEach (.new : Processor.Reachable .eightAtOnce oneTank.processor) rfl answered
      numeric (.ofDevice "1")
  obtain ⟨shown, listing, relisted⟩ := shows listable
  exact ⟨.new, rfl, answered, numeric, listable, found, ordered, shown, listed, perm, newer,
    listing, relisted⟩

end Service

end FuelTelemetry
