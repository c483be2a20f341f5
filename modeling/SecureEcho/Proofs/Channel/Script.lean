import SecureEcho.Proofs.Channel.Honest

namespace SecureEcho

def Arrival.bytes : Arrival → Bytes
  | .data bytes => bytes
  | _ => []

namespace Scripted

variable {script next : Scripted} {target filled offer : Bytes} {outcome : Transfer}

def pending (script : Scripted) : Bytes := script.arrivals.flatMap Arrival.bytes

-- A byte counts twice, because it is read first and written later.
def due (script : Scripted) : Nat :=
  2 * script.pending.length + script.arrivals.length + script.uptakes.length

theorem read_nothing (none : script.arrivals = []) (target : Bytes) :
    script.read target = (.blocked .read, target, { script with reads := script.reads + 1 }) := by
  simp [read, none]

theorem read_data {bytes : Bytes} {later : List Arrival} (first : script.arrivals = .data bytes :: later)
    (target : Bytes) :
    ∃ count filled arrivals, count = min bytes.length target.length ∧
      script.read target =
        (.progressed count, filled, { script with reads := script.reads + 1, arrivals }) ∧
      filled.take count = bytes.take count ∧
      (arrivals = later ∧ bytes.drop count = [] ∨
        arrivals = .data (bytes.drop count) :: later ∧ bytes.drop count ≠ []) := by
  obtain ⟨count, size⟩ : ∃ count, count = min bytes.length target.length := ⟨_, rfl⟩
  have fits : (bytes.take count).length = count := by
    rw [List.length_take]
    omega
  have copied := Bytes.slice_overwrite target (bytes.take count) 0 (Nat.zero_le _)
  rw [fits, Bytes.slice, List.drop_zero] at copied
  by_cases rest : bytes.drop count = []
  · exact ⟨count, _, later, size, by simp [read, first, rest, ← size], copied, .inl ⟨rfl, rest⟩⟩
  · exact ⟨count, _, _, size, by simp [read, first, rest, ← size], copied, .inr ⟨rfl, rest⟩⟩

theorem due_read (answer : Channel.read script target = (outcome, filled, next)) :
    next.due + 2 * (outcome.moved filled).length ≤ script.due := by
  replace answer : script.read target = (outcome, filled, next) := answer
  cases items : script.arrivals with
  | nil =>
    rw [read_nothing items] at answer
    cases answer
    exact Nat.le_refl _
  | cons item later =>
    cases item with
    | data bytes =>
      obtain ⟨count, staged, arrivals, size, read, -, left⟩ := read_data items target
      rw [read] at answer
      cases answer
      have moved := List.length_take_le count filled
      have split : (bytes.drop count).length = bytes.length - count := List.length_drop
      rcases left with ⟨rfl, none⟩ | ⟨rfl, -⟩
      · rw [none, List.length_nil] at split
        simp only [due, pending, items, Transfer.moved_progressed, List.flatMap_cons, Arrival.bytes,
          List.length_append, List.length_cons]
        omega
      · simp only [due, pending, items, Transfer.moved_progressed, List.flatMap_cons, Arrival.bytes,
          List.length_append, List.length_cons, split]
        omega
    | blocked want | failed why =>
      simp only [read, items] at answer
      cases answer
      simp [due, pending, items, Arrival.bytes]

theorem due_write (answer : Channel.write script offer = (outcome, next)) :
    next.due ≤ script.due ∧ (next.due < script.due ∨ outcome = .progressed offer.length) := by
  replace answer : script.write offer = (outcome, next) := answer
  have kept : next.pending = script.pending ∧ next.arrivals = script.arrivals ∧
      next.uptakes = script.uptakes.drop 1 := by
    unfold write at answer
    split at answer <;> cases answer <;> exact ⟨rfl, rfl, rfl⟩
  obtain ⟨pending, arrivals, uptakes⟩ := kept
  unfold due
  rw [pending, arrivals, uptakes, List.length_drop]
  cases told : script.uptakes with
  | nil =>
    simp only [write, told] at answer
    cases answer
    exact ⟨by simp, .inr rfl⟩
  | cons uptake later =>
    simp only [List.length_cons]
    exact ⟨by omega, .inl (by omega)⟩

-- A script of data and of limits on what is taken, which holds no call up once there is something to
-- move.
structure Steady (script : Scripted) : Prop where
  arrivals : ∀ arrival ∈ script.arrivals, ∃ piece, piece ≠ [] ∧ arrival = .data piece
  uptakes : ∀ uptake ∈ script.uptakes, ∃ count, uptake = .atMost count

theorem Steady.plain (steady : script.Steady) : script.Plain := by
  intro count member
  obtain ⟨limit, same⟩ := steady.uptakes _ member
  cases same

theorem Steady.read (steady : script.Steady) (room : target ≠ [])
    (answer : Channel.read script target = (outcome, filled, next)) :
    next.Steady ∧ next.sent = script.sent ∧ outcome.moved filled ++ next.pending = script.pending ∧
      (outcome = .blocked .read ∧ next.arrivals = [] ∨ ∃ count, count ≠ 0 ∧ outcome = .progressed count) := by
  replace answer : script.read target = (outcome, filled, next) := answer
  obtain ⟨arrivals, uptakes⟩ := steady
  cases items : script.arrivals with
  | nil =>
    rw [read_nothing items] at answer
    cases answer
    exact ⟨⟨arrivals, uptakes⟩, rfl, rfl, .inl ⟨rfl, items⟩⟩
  | cons item later =>
    rw [items] at arrivals
    obtain ⟨bytes, some, rfl⟩ := arrivals item List.mem_cons_self
    have others : ∀ arrival ∈ later, ∃ piece, piece ≠ [] ∧ arrival = .data piece :=
      fun arrival member => arrivals arrival (List.mem_cons_of_mem _ member)
    obtain ⟨count, staged, remaining, size, read, copied, left⟩ := read_data items target
    rw [read] at answer
    cases answer
    have moves : count ≠ 0 := by
      have bytes_pos := List.length_pos_of_ne_nil some
      have target_pos := List.length_pos_of_ne_nil room
      omega
    have split := List.take_append_drop count bytes
    rcases left with ⟨rfl, none⟩ | ⟨rfl, more⟩
    · refine ⟨⟨others, uptakes⟩, rfl, ?_, .inr ⟨count, moves, rfl⟩⟩
      rw [none, List.append_nil] at split
      simp [pending, items, Arrival.bytes, copied, split]
    · refine ⟨⟨?_, uptakes⟩, rfl, ?_, .inr ⟨count, moves, rfl⟩⟩
      · intro arrival member
        rcases List.mem_cons.mp member with rfl | member
        · exact ⟨_, more, rfl⟩
        · exact others arrival member
      · simp only [pending, items, List.flatMap_cons, Arrival.bytes, Transfer.moved_progressed, copied]
        rw [← List.append_assoc, split]

theorem Steady.write (steady : script.Steady) (answer : Channel.write script offer = (outcome, next)) :
    next.Steady ∧ next.arrivals = script.arrivals ∧ next.sent = script.sent ++ outcome.moved offer ∧
      ∃ count, outcome = .progressed count := by
  replace answer : script.write offer = (outcome, next) := answer
  obtain ⟨arrivals, uptakes⟩ := steady
  cases told : script.uptakes with
  | nil =>
    simp only [Scripted.write, told] at answer
    cases answer
    refine ⟨⟨arrivals, by simp⟩, rfl, ?_, _, rfl⟩
    simp
  | cons uptake later =>
    rw [told] at uptakes
    obtain ⟨limit, rfl⟩ := uptakes uptake List.mem_cons_self
    simp only [Scripted.write, told] at answer
    cases answer
    refine ⟨⟨arrivals, fun other member => ?_⟩, rfl, ?_, _, rfl⟩
    · exact uptakes other (List.mem_cons_of_mem _ (by simpa using member))
    · simp

-- Reads bring the pieces one after another, and writes take what the limits allow, each for one write.
def ofPieces (pieces : List Bytes) (limits : List Nat) : Scripted :=
  { arrivals := pieces.map .data, uptakes := limits.map .atMost }

theorem steady_ofPieces {pieces : List Bytes} (whole : ∀ piece ∈ pieces, piece ≠ [])
    (limits : List Nat) : (ofPieces pieces limits).Steady := by
  constructor
  · intro arrival member
    obtain ⟨piece, among, rfl⟩ := List.mem_map.mp member
    exact ⟨piece, whole piece among, rfl⟩
  · intro uptake member
    obtain ⟨limit, -, rfl⟩ := List.mem_map.mp member
    exact ⟨limit, rfl⟩

theorem pending_ofPieces (pieces : List Bytes) (limits : List Nat) :
    (ofPieces pieces limits).pending = pieces.flatten := by
  rw [pending, ofPieces, List.flatMap_map]
  exact pieces.flatMap_id

end Scripted

end SecureEcho
