import EchoSync.Api.RoomId
import EchoSync.Foundations.TaskPool
import EchoSync.Foundations.TransitionSystem

/-!
# API Server - Concurrent requests

Every connection has a thread of its own, which routes one request and answers it.  The
threads share the table of rooms behind a lock.  A creation reads the clock, stores its room
under the lock and then writes its response, in separate steps; a look-up answers while it
holds the lock.  The steps of different threads interleave in any order.

Next to the table the state keeps the creations that have stored their rooms, latest first.

Main results:

- Theorem {lit}`trimStartMatches_append`: the path of a room determines its id.
- Theorem {lit}`run_tabled`: in every state of every run the table is what the stored
  creations make it.
-/

namespace EchoSync
namespace Api

open TransitionSystem

/-! ## Requests and responses -/

/-- The parts of a request that the server looks at. -/
structure Request where
  method : Text
  path : Text
  body : Text

/-- What {lit}`write_response` is given. -/
structure Response where
  statusCode : Nat
  reason : Text
  body : Text
deriving DecidableEq

/-- A successful response. -/
def Response.ok (body : Text) : Response where
  statusCode := 200
  reason := "OK".toList
  body := body

/-- A response without the thing that was asked for. -/
def Response.notFound (body : Text) : Response where
  statusCode := 404
  reason := "Not Found".toList
  body := body

/-- The path of all rooms. -/
def roomsPath : Text :=
  "/api/rooms/".toList

/-- The text without the repetitions of a pattern that it starts with. -/
def trimStartMatches (pattern text : Text) : Text :=
  if pattern ≠ [] ∧ pattern <+: text then
    trimStartMatches pattern (text.drop pattern.length)
  else text
termination_by text.length
decreasing_by
  rename_i h
  have hpos : 0 < pattern.length := List.length_pos_iff.mpr h.1
  have hle : pattern.length ≤ text.length := h.2.length_le
  rw [List.length_drop]
  omega

/-- The path of a room determines its id. -/
theorem trimStartMatches_append {pattern text : Text} (hne : pattern ≠ [])
    (hshort : text.length < pattern.length) :
    trimStartMatches pattern (pattern ++ text) = text := by
  rw [trimStartMatches, if_pos ⟨hne, List.prefix_append pattern text⟩, List.drop_left,
    trimStartMatches, if_neg]
  rintro ⟨-, hwithin⟩
  exact absurd hwithin.length_le (not_le.mpr hshort)

/-! ## The handlers -/

/-- The table of rooms. -/
abbrev Rooms := Text → Option Room

/-- The response to a look-up, given the table. -/
def getRoom (path : Text) (rooms : Rooms) : Response :=
  match rooms (trimStartMatches roomsPath path) with
  | some room => .ok (roomJson room)
  | none => .notFound "\x7b\"error\":\"room not found\"\x7d".toList

/-- A room that is created, and the reading of the clock that its id comes from. -/
structure Creation where
  room : Room
  reading : SystemTime
deriving DecidableEq

/-- The room that a request body and a reading of the clock make. -/
def newRoom (body : Text) (now : SystemTime) : Creation where
  room :=
    { roomId := generateRoomId now
      roomName := (jsonStringValue body "roomName".toList).getD "Music Room".toList
      hostName := (jsonStringValue body "hostName".toList).getD "Host".toList }
  reading := now

/-- Where the thread of a request is: before the clock is read, before the room is stored,
before the response, or answered; a look-up is before its answer. -/
inductive Phase where
  | createRoom (body : Text)
  | store (creation : Creation)
  | respond (creation : Creation)
  | created (creation : Creation) (response : Response)
  | getRoom (path : Text)
  | answered (response : Response)
deriving DecidableEq

/-- The routes of the server. -/
def handleClient (request : Request) : Phase :=
  if request.method = "OPTIONS".toList then
    .answered { statusCode := 204, reason := "No Content".toList, body := [] }
  else if request.method = "GET".toList ∧ request.path = "/api/health".toList then
    .answered (.ok "\x7b\"status\":\"ok\"\x7d".toList)
  else if request.method = "POST".toList ∧ request.path = "/api/rooms/create".toList then
    .createRoom request.body
  else if request.method = "GET".toList ∧ roomsPath <+: request.path then .getRoom request.path
  else .answered (.notFound "\x7b\"error\":\"route not found\"\x7d".toList)

/-! ## Interleavings -/

/-- The table of rooms, the threads, the last reading of the clock, and the creations that
have stored their rooms, latest first. -/
structure ApiServer where
  rooms : Rooms
  calls : List Phase
  clock : SystemTime
  stored : List Creation

namespace ApiServer

/-- A server without rooms and requests. -/
def initial (clock : SystemTime) : ApiServer where
  rooms := fun _ => none
  calls := []
  clock := clock
  stored := []

/-- A thread goes on to its next phase. -/
def setCall (r : ApiServer) (i : Nat) (phase : Phase) : ApiServer :=
  { r with calls := r.calls.set i phase }

/-- The insertion of a room into the table, over whatever is there. -/
def insertRoom (r : ApiServer) (creation : Creation) : ApiServer :=
  { r with
    rooms := Function.update r.rooms creation.room.roomId (some creation.room)
    stored := creation :: r.stored }

/-- The next step of a thread in this phase. -/
def stepCall (r : ApiServer) (i : Nat) (now : SystemTime) : Phase → Option ApiServer
  | .createRoom body => some (r.setCall i (.store (newRoom body now)))
  | .store creation => some ((r.insertRoom creation).setCall i (.respond creation))
  | .respond creation =>
      some (r.setCall i (.created creation (.ok (roomJson creation.room))))
  | .getRoom path => some (r.setCall i (.answered (getRoom path r.rooms)))
  | .created _ _ | .answered _ => none

/-- One step of a run: a request arrives, or a thread makes its next step at this reading of
the clock, which never goes back. -/
inductive Action where
  | request (request : Request)
  | call (index : Nat) (now : SystemTime)

/-- Make one step. -/
def step (r : ApiServer) : Action → Option ApiServer
  | .request request => some { r with calls := r.calls ++ [handleClient request] }
  | .call i now =>
      if r.clock.nanos ≤ now.nanos then
        r.calls[i]?.bind fun phase =>
          (r.stepCall i now phase).map fun r' => { r' with clock := now }
      else none

/-- A step brings a request or makes the next step of one thread. -/
theorem step_eq_some {r r' : ApiServer} {action : Action} :
    step r action = some r' ↔
      (∃ request, action = .request request ∧
        { r with calls := r.calls ++ [handleClient request] } = r') ∨
      (∃ i now phase t, action = .call i now ∧ r.clock.nanos ≤ now.nanos ∧
        r.calls[i]? = some phase ∧ r.stepCall i now phase = some t ∧
        { t with clock := now } = r') := by
  cases action with
  | request request => simp [step]
  | call i now => simp [step, Option.bind_eq_some_iff]

variable {r r' t : ApiServer} {i : Nat} {now : SystemTime} {phase : Phase}

/-! ## The table -/

/-- What a thread holds: an id made from its reading of the clock, and a stored room once it
has stored it. -/
def Holds (stored : List Creation) : Phase → Prop
  | .store creation => creation.room.roomId = generateRoomId creation.reading
  | .respond creation => creation ∈ stored
  | .created creation response =>
      creation ∈ stored ∧ response = .ok (roomJson creation.room)
  | .createRoom _ | .getRoom _ | .answered _ => True

theorem Holds.cons {stored : List Creation} (h : Holds stored phase) (creation : Creation) :
    Holds (creation :: stored) phase := by
  cases phase with
  | createRoom body => trivial
  | store other => exact h
  | respond other => exact List.mem_cons_of_mem creation h
  | created other response => exact ⟨List.mem_cons_of_mem creation h.1, h.2⟩
  | getRoom path => trivial
  | answered response => trivial

/-- The table holds under every id the room that was stored last, and the threads and the
stored creations are those of the server. -/
structure Tabled (r : ApiServer) : Prop where
  rooms : ∀ id, r.rooms id =
    (r.stored.find? fun creation => decide (creation.room.roomId = id)).map Creation.room
  ids : ∀ creation ∈ r.stored, creation.room.roomId = generateRoomId creation.reading
  threads : ∀ phase ∈ r.calls, Holds r.stored phase

theorem initial_tabled (clock : SystemTime) : (initial clock).Tabled where
  rooms := fun _ => rfl
  ids := by simp [initial]
  threads := by simp [initial]

/-- A new thread stores nothing. -/
theorem holds_handleClient (stored : List Creation) (request : Request) :
    Holds stored (handleClient request) := by
  unfold handleClient
  split_ifs <;> trivial

theorem Tabled.setCall (h : r.Tabled) (hphase : Holds r.stored phase) :
    (r.setCall i phase).Tabled where
  rooms := h.rooms
  ids := h.ids
  threads := TaskPool.forall_mem_set h.threads hphase

/-- The insertion of a room whose id comes from the clock. -/
theorem Tabled.insertRoom (h : r.Tabled) {creation : Creation}
    (hid : creation.room.roomId = generateRoomId creation.reading) :
    (r.insertRoom creation).Tabled where
  rooms := by
    intro id
    simp only [ApiServer.insertRoom, Function.update_apply, List.find?_cons]
    by_cases heq : id = creation.room.roomId
    · simp [heq]
    · have hne : decide (creation.room.roomId = id) = false := by
        simp [Ne.symm heq]
      rw [if_neg heq, hne, h.rooms]
  ids := by
    intro other hother
    rcases List.mem_cons.mp hother with rfl | hrest
    · exact hid
    · exact h.ids other hrest
  threads := fun phase hphase => (h.threads phase hphase).cons creation

theorem stepCall_tabled (h : r.Tabled) (hphase : r.calls[i]? = some phase)
    (hstep : r.stepCall i now phase = some t) : t.Tabled := by
  have hholds := h.threads phase (List.mem_of_getElem? hphase)
  cases phase with
  | createRoom body =>
      cases hstep
      exact h.setCall rfl
  | store creation =>
      cases hstep
      exact (h.insertRoom hholds).setCall List.mem_cons_self
  | respond creation =>
      cases hstep
      exact h.setCall ⟨hholds, rfl⟩
  | getRoom path =>
      cases hstep
      exact h.setCall trivial
  | created creation response => cases hstep
  | answered response => cases hstep

theorem step_tabled {action : Action} (h : r.Tabled) (hstep : step r action = some r') :
    r'.Tabled := by
  rcases step_eq_some.mp hstep with
    ⟨request, -, rfl⟩ | ⟨i, now, phase, t, -, -, hphase, hcall, rfl⟩
  · refine ⟨h.rooms, h.ids, ?_⟩
    intro phase hphase
    rcases List.mem_append.mp hphase with hold | hnew
    · exact h.threads phase hold
    · rw [List.mem_singleton.mp hnew]
      exact holds_handleClient r.stored request
  · have ht := stepCall_tabled h hphase hcall
    exact ⟨ht.rooms, ht.ids, ht.threads⟩

/-- In every state of every run the table is what the stored creations make it. -/
theorem run_tabled {clock : SystemTime} {actions : List Action}
    (hrun : run step (initial clock) actions = some r) : r.Tabled :=
  run_invariant Tabled (fun _ _ _ h hstep => step_tabled h hstep) (initial_tabled clock) hrun

end ApiServer
end Api
end EchoSync
