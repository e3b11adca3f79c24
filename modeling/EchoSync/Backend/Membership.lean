import EchoSync.Backend.RoomController
import EchoSync.Foundations.TransitionSystem

/-!
# Backend - Members of a room

A room only ever gains members, but a creation stores its room over whatever has its id, and ids
are short.  A key that no creation made may still be one that every object has.

Main results:

- Theorem {lit}`run_kept`: every stored room has its host first and no name twice.
- Theorem {lit}`membership_iff`: admitted names stay listed exactly as long as no creation gets
  the id of a room that has other names than the new host's.
- Theorem {lit}`unknown_refused_iff`: which of the ids that no creation made are refused.
-/

namespace EchoSync
namespace Backend

open Api (Text)
open TransitionSystem

variable {ν : Type}

/-! ## Rooms -/

/-- The first member is the host, no other is, and no two members have one name. -/
structure Room.WellFormed (room : Room ν) : Prop where
  host : ∃ first rest, room.members = first :: rest ∧ first.host = true ∧
    ∀ member ∈ rest, member.host = false
  names : (room.members.map Member.name).Nodup

theorem newRoom_wellFormed (roomName hostName : ν) (uuid : Text) (now : Int) :
    (newRoom roomName hostName uuid now).WellFormed where
  host := ⟨_, [], rfl, rfl, fun _ hmem => absurd hmem List.not_mem_nil⟩
  names := List.nodup_singleton _

section Join

variable [DecidableEq ν] {room : Room ν}

/-- The names of a room with one more. -/
theorem Room.mem_join {userName name : ν} :
    name ∈ (room.join userName).members.map Member.name ↔
      name ∈ room.members.map Member.name ∨ name = userName := by
  unfold join
  split_ifs with hexists
  · constructor
    · exact Or.inl
    · rintro (hmem | rfl)
      · exact hmem
      · rcases List.any_eq_true.mp hexists with ⟨member, hmember, hname⟩
        exact List.mem_map.mpr ⟨member, hmember, of_decide_eq_true hname⟩
  · rw [List.map_append, List.mem_append, List.map_singleton, List.mem_singleton]

theorem Room.WellFormed.join (h : room.WellFormed) (userName : ν) :
    (room.join userName).WellFormed := by
  unfold Room.join
  split_ifs with hexists
  · exact h
  · rcases h.host with ⟨first, rest, hmembers, hfirst, hrest⟩
    constructor
    · refine ⟨first, rest ++ [{ name := userName, host := false }], ?_, hfirst, ?_⟩
      · rw [hmembers, List.cons_append]
      · intro member hmember
        rcases List.mem_append.mp hmember with hold | hnew
        · exact hrest member hold
        · rw [List.mem_singleton.mp hnew]
    · have hnew : userName ∉ room.members.map Member.name := by
        intro hmem
        rcases List.mem_map.mp hmem with ⟨member, hmember, hname⟩
        exact hexists (List.any_eq_true.mpr ⟨member, hmember, decide_eq_true hname⟩)
      rw [List.map_append]
      exact List.nodup_append_comm.mp (List.nodup_cons.mpr ⟨hnew, h.names⟩)

end Join

namespace Controller

variable {c : Controller ν} {roomId : Text} {name : ν}

/-- A name is in the room that is stored under an id. -/
def HasMember (c : Controller ν) (roomId : Text) (name : ν) : Prop :=
  ∃ room, c.rooms roomId = some room ∧ name ∈ room.members.map Member.name

/-- A look-up on an id lists a name exactly if the stored room has it. -/
theorem getRoom_lists_iff :
    (∃ room, c.getRoom roomId = .ok (.ok (.room room)) ∧
      name ∈ room.members.map Member.name) ↔ c.HasMember roomId name := by
  constructor
  · rintro ⟨room, hget, hname⟩
    exact ⟨room, getRoom_eq_room hget, hname⟩
  · rintro ⟨room, hroom, hname⟩
    exact ⟨room, getRoom_of_some hroom, hname⟩

/-- The names under the ids after a room is stored. -/
theorem hasMember_update {c' : Controller ν} {key : Text} {room : Room ν}
    (h : c'.rooms = Function.update c.rooms key (some room)) :
    c'.HasMember roomId name ↔
      if roomId = key then name ∈ room.members.map Member.name else c.HasMember roomId name := by
  unfold HasMember
  rw [h]
  split_ifs with hkey
  · rw [hkey, Function.update_self]
    simp only [Option.some.injEq, exists_eq_left']
  · rw [Function.update_of_ne hkey]

/-- The stored rooms are well-formed, and their names are among those that were admitted. -/
structure Kept (c : Controller ν) : Prop where
  rooms : ∀ roomId room, c.rooms roomId = some room → room.WellFormed
  names : ∀ roomId name, c.HasMember roomId name → (roomId, name) ∈ c.admitted

theorem initial_kept : (initial : Controller ν).Kept where
  rooms := by simp [initial]
  names := by simp [initial, HasMember]

/-- A well-formed room is stored whose names are admitted. -/
theorem Kept.store (h : c.Kept) {c' : Controller ν} {key : Text} {room : Room ν} {admitted : ν}
    (hrooms : c'.rooms = Function.update c.rooms key (some room))
    (hadmitted : c'.admitted = (key, admitted) :: c.admitted) (hroom : room.WellFormed)
    (hnames : ∀ name ∈ room.members.map Member.name, name = admitted ∨ c.HasMember key name) :
    c'.Kept where
  rooms := by
    intro roomId other hother
    rw [hrooms, Function.update_apply] at hother
    split_ifs at hother
    · cases hother
      exact hroom
    · exact h.rooms roomId other hother
  names := by
    intro roomId name hname
    rw [hasMember_update hrooms] at hname
    rw [hadmitted]
    split_ifs at hname with hkey
    · subst hkey
      rcases hnames name hname with rfl | hold
      · exact List.mem_cons_self
      · exact List.mem_cons_of_mem _ (h.names roomId name hold)
    · exact List.mem_cons_of_mem _ (h.names roomId name hname)

theorem Kept.createRoom (h : c.Kept) (roomName hostName : ν) (uuid : Text) (now : Int) :
    (c.createRoom roomName hostName uuid now).2.Kept :=
  h.store rfl rfl (newRoom_wellFormed roomName hostName uuid now) fun _ hname =>
    Or.inl (List.mem_singleton.mp hname)

/-- The creation of a room takes the place of the names under its id. -/
theorem createRoom_keeps_iff (h : c.Kept)
    (hlisted : ∀ roomId name, (roomId, name) ∈ c.admitted → c.HasMember roomId name)
    (roomName hostName : ν) (uuid : Text) (now : Int) :
    (∀ roomId name, (roomId, name) ∈ (c.createRoom roomName hostName uuid now).2.admitted →
        (c.createRoom roomName hostName uuid now).2.HasMember roomId name) ↔
      ∀ name, c.HasMember (newRoomId uuid) name → name = hostName := by
  have hnew : ∀ roomId name,
      (c.createRoom roomName hostName uuid now).2.HasMember roomId name ↔
        if roomId = newRoomId uuid then name = hostName else c.HasMember roomId name := by
    intro roomId name
    have hrooms : (c.createRoom roomName hostName uuid now).2.rooms = Function.update c.rooms
        (newRoomId uuid) (some (newRoom roomName hostName uuid now)) := rfl
    rw [hasMember_update hrooms, newRoom, List.map_singleton, List.mem_singleton]
  constructor
  · intro hall name hname
    have hkept := hall _ name (List.mem_cons_of_mem _ (h.names _ name hname))
    rw [hnew, if_pos rfl] at hkept
    exact hkept
  · intro hsame roomId name hadmitted
    rw [hnew]
    rcases List.mem_cons.mp hadmitted with heq | hold
    · have hkey : roomId = newRoomId uuid := (Prod.mk.inj heq).1
      rw [if_pos hkey]
      exact (Prod.mk.inj heq).2
    · have hmember := hlisted roomId name hold
      split_ifs with hkey
      · subst hkey
        exact hsame name hmember
      · exact hmember

/-- The rooms are well-formed, and a look-up lists every name that was admitted to its id. -/
structure Stable (c : Controller ν) : Prop where
  rooms : ∀ roomId room, c.rooms roomId = some room → room.WellFormed
  listed : ∀ roomId name, (roomId, name) ∈ c.admitted →
    ∃ room, c.getRoom roomId = .ok (.ok (.room room)) ∧ name ∈ room.members.map Member.name

theorem Kept.stable_iff (h : c.Kept) :
    c.Stable ↔ ∀ roomId name, (roomId, name) ∈ c.admitted → c.HasMember roomId name := by
  constructor
  · intro hstable roomId name hadmitted
    exact getRoom_lists_iff.mp (hstable.listed roomId name hadmitted)
  · intro hlisted
    refine ⟨h.rooms, ?_⟩
    intro roomId name hadmitted
    exact getRoom_lists_iff.mpr (hlisted roomId name hadmitted)

variable [DecidableEq ν]

/-- A join adds a name to a stored room. -/
theorem addMember_hasMember {room : Room ν} (hroom : c.rooms roomId = some room) {userName : ν}
    {other : Text} :
    (c.addMember roomId room userName).HasMember other name ↔
      c.HasMember other name ∨ other = roomId ∧ name = userName := by
  have hrooms : (c.addMember roomId room userName).rooms =
      Function.update c.rooms roomId (some (room.join userName)) := rfl
  rw [hasMember_update hrooms, Room.mem_join]
  split_ifs with hkey
  · simp only [hkey, HasMember, hroom, Option.some.injEq, exists_eq_left', true_and]
  · simp only [hkey, false_and, or_false]

theorem Kept.addMember (h : c.Kept) {room : Room ν} (hroom : c.rooms roomId = some room)
    (userName : ν) : (c.addMember roomId room userName).Kept := by
  refine h.store rfl rfl ((h.rooms roomId room hroom).join userName) ?_
  intro name hname
  rcases Room.mem_join.mp hname with hold | hnew
  · exact Or.inr ⟨room, hroom, hold⟩
  · exact Or.inl hnew

end Controller

/-! ## Runs -/

/-- One call of the controller. -/
inductive Call (ν : Type) where
  | initSocket
  | createRoom (roomName hostName : ν) (uuid : Text) (now : Int)
  | joinRoom (roomId : Text) (userName : ν)
  | getRoom (roomId : Text)

/-- The id that a call creates a room under. -/
def Call.creates : Call ν → Option Text
  | .createRoom _ _ uuid _ => some (newRoomId uuid)
  | .initSocket | .joinRoom _ _ | .getRoom _ => none

namespace Controller

variable [DecidableEq ν] {c : Controller ν} {roomId : Text}

/-- What a call leaves. -/
def step (c : Controller ν) : Call ν → Controller ν
  | .initSocket => c.initSocket
  | .createRoom roomName hostName uuid now => (c.createRoom roomName hostName uuid now).2
  | .joinRoom roomId userName => (c.joinRoom roomId userName).2
  | .getRoom _ => c

/-- What a list of calls leaves. -/
def run (calls : List (Call ν)) : Controller ν :=
  calls.foldl step initial

theorem Kept.joinRoom (h : c.Kept) (roomId : Text) (userName : ν) :
    (c.joinRoom roomId userName).2.Kept := by
  cases hroom : c.rooms roomId with
  | none =>
      rw [joinRoom_of_none hroom]
      exact h
  | some room =>
      rw [joinRoom_of_some hroom]
      exact h.addMember hroom userName

theorem step_kept (h : c.Kept) (call : Call ν) : (c.step call).Kept := by
  cases call with
  | initSocket => exact ⟨h.rooms, h.names⟩
  | createRoom roomName hostName uuid now => exact h.createRoom roomName hostName uuid now
  | joinRoom roomId userName => exact h.joinRoom roomId userName
  | getRoom roomId => exact h

/-- In every state of every run the stored rooms are well-formed. -/
theorem run_kept (calls : List (Call ν)) : (run calls : Controller ν).Kept :=
  List.foldlRecOn calls step initial_kept fun _ h call _ => step_kept h call

/-- The room under the id of a creation, if there is one, has the name of the new host only. -/
def Fresh (c : Controller ν) : Call ν → Prop
  | .createRoom _ hostName uuid _ => ∀ name, c.HasMember (newRoomId uuid) name → name = hostName
  | .initSocket | .joinRoom _ _ | .getRoom _ => True

/-- Joins and look-ups keep the names; a creation keeps them if it is fresh. -/
theorem step_stable_iff (h : c.Kept) (hstable : c.Stable) (call : Call ν) :
    (c.step call).Stable ↔ c.Fresh call := by
  have hlisted := h.stable_iff.mp hstable
  cases call with
  | initSocket => exact iff_of_true ⟨hstable.rooms, hstable.listed⟩ trivial
  | createRoom roomName hostName uuid now =>
      rw [(step_kept h _).stable_iff]
      exact createRoom_keeps_iff h hlisted roomName hostName uuid now
  | joinRoom roomId userName =>
      refine iff_of_true ?_ trivial
      cases hroom : c.rooms roomId with
      | none =>
          rw [step, joinRoom_of_none hroom]
          exact hstable
      | some room =>
          rw [step, joinRoom_of_some hroom, (h.addMember hroom userName).stable_iff]
          intro other name hadmitted
          rw [addMember_hasMember hroom]
          rcases List.mem_cons.mp hadmitted with heq | hold
          · exact Or.inr (Prod.mk.inj heq)
          · exact Or.inl (hlisted other name hold)
  | getRoom roomId => exact iff_of_true hstable trivial

/-- In every state of every run every stored room has one host, its first member, and no name
twice; and admitted names stay listed exactly as long as no creation gets the id of a room that
has other names than the new host's. -/
theorem membership_iff (calls : List (Call ν)) :
    (∀ roomId room, (run calls).rooms roomId = some room → room.WellFormed) ∧
    ((∀ before, before <+: calls → (run before).Stable) ↔
      ∀ before call, before ++ [call] <+: calls → (run before).Fresh call) := by
  have hinitial : (initial : Controller ν).Stable :=
    initial_kept.stable_iff.mpr fun _ _ hadmitted => absurd hadmitted List.not_mem_nil
  exact ⟨(run_kept calls).rooms, foldl_forall_iff Kept Stable Fresh
    (fun _ call h => step_kept h call) (fun _ call h hstable => step_stable_iff h hstable call)
    initial_kept hinitial calls⟩

/-- Two hosts whose rooms get one id. -/
def sameId : List (Call Text) :=
  [.createRoom "Jazz".toList "Ann".toList "3f2a9c01-5b7e-4d10-8a6f-1c2d3e4f5a6b".toList 1,
    .createRoom "Rock".toList "Cid".toList "3f2a9c88-0e1f-4b2a-9c3d-7e8f9a0b1c2d".toList 2]

/-- The first host is not listed any more. -/
theorem membership_lost : ¬ (run sameId).Stable := by
  intro hstable
  have hadmitted : (newRoomId "3f2a9c".toList, "Ann".toList) ∈ (run sameId).admitted := by
    decide +kernel
  rcases hstable.listed _ _ hadmitted with ⟨room, hget, hname⟩
  have hroom := getRoom_eq_room hget
  have hstored : (run sameId).rooms (newRoomId "3f2a9c".toList) =
      some (newRoom "Rock".toList "Cid".toList "3f2a9c".toList 2) := by
    decide +kernel
  rw [hstored, Option.some.injEq] at hroom
  rw [← hroom, newRoom, List.map_singleton, List.mem_singleton] at hname
  exact absurd hname (by decide)

/-! ## Unknown ids -/

/-- A key that is not the id of a creation stays one that the table does not own. -/
theorem step_rooms_eq_none {call : Call ν} (hcall : call.creates ≠ some roomId)
    (h : c.rooms roomId = none) : (c.step call).rooms roomId = none := by
  cases call with
  | initSocket => exact h
  | createRoom roomName hostName uuid now =>
      have hne : roomId ≠ newRoomId uuid := by
        rintro rfl
        exact hcall rfl
      rw [← h]
      exact Function.update_of_ne hne _ _
  | joinRoom other userName =>
      cases hroom : c.rooms other with
      | none =>
          rw [step, joinRoom_of_none hroom]
          exact h
      | some room =>
          have hne : roomId ≠ other := by
            rintro rfl
            rw [h] at hroom
            cases hroom
          rw [step, joinRoom_of_some hroom, ← h]
          exact Function.update_of_ne hne _ _
  | getRoom other => exact h

theorem run_rooms_eq_none {calls : List (Call ν)}
    (hunknown : ∀ call ∈ calls, call.creates ≠ some roomId) : (run calls).rooms roomId = none :=
  List.foldlRecOn (motive := fun c : Controller ν => c.rooms roomId = none) calls step rfl
    fun _ h call hcall => step_rooms_eq_none (hunknown call hcall) h

/-- An id that no creation made is answered with 404, and nothing is stored, exactly if it is
not the name of a property that every object has. -/
theorem unknown_refused_iff {calls : List (Call ν)}
    (hunknown : ∀ call ∈ calls, call.creates ≠ some roomId) :
    ((run calls).getRoom roomId = .ok .notFound ∧
      ∀ userName, (run calls).joinRoom roomId userName = (.ok .notFound, run calls)) ↔
        roomId ∉ objectPrototype :=
  refused_iff (run_rooms_eq_none hunknown)

/-- An id of another form is refused after a creation. -/
theorem unknown_refused_iff_created :
    (run sameId).getRoom "3F2A9C".toList = .ok .notFound ∧
      ∀ userName, (run sameId).joinRoom "3F2A9C".toList userName =
        (.ok .notFound, run sameId) := by
  have hunknown : ∀ call ∈ sameId, call.creates ≠ some "3F2A9C".toList := by
    intro call hcall
    simp only [sameId, List.mem_cons, List.not_mem_nil, or_false] at hcall
    rcases hcall with rfl | rfl
    · decide +kernel
    · decide +kernel
  exact (unknown_refused_iff hunknown).mpr (by decide +kernel)

/-- The name of the function that made an object is found in an empty table: a look-up answers
200, and a join throws. -/
theorem unknown_found :
    (run [] : Controller Text).getRoom "constructor".toList =
        .ok (.ok (.inherited "constructor".toList)) ∧
      ((run [] : Controller Text).joinRoom "constructor".toList "Ann".toList).1 =
        .error "Cannot read properties of undefined (reading 'find')".toList := by
  constructor
  · decide +kernel
  · decide +kernel

end Controller
end Backend
end EchoSync
