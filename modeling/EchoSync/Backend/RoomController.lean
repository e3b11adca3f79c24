import EchoSync.Api.Json

/-!
# Backend - The room controller

The handlers of the backend of the app.  They share one table of rooms, which is an object: a
key that it does not own is looked up in the prototype of all objects.  Names are compared and
stored as they come, so their type is a parameter; the text that the id of a room is cut out of
and the time of its creation are arguments.

Next to the table the state keeps which names were admitted to which ids, latest first.

Main results:

- Theorem {lit}`Rooms.read_eq_none_iff`: the keys under which nothing is found.
- Theorem {lit}`Controller.refused_iff`: which of the keys that the table does not own are
  refused.
-/

namespace EchoSync
namespace Backend

open Api (Text)

/-! ## Rooms -/

/-- A member of a room. -/
structure Member (ν : Type) where
  name : ν
  host : Bool
deriving DecidableEq

/-- A room of the backend. -/
structure Room (ν : Type) where
  roomId : Text
  roomName : ν
  hostName : ν
  members : List (Member ν)
  createdAt : Int
deriving DecidableEq

/-- The properties that the table of rooms owns. -/
abbrev Rooms (ν : Type) := Text → Option (Room ν)

/-- The names of the properties that every object inherits. -/
def objectPrototype : List Text :=
  ["constructor", "__defineGetter__", "__defineSetter__", "hasOwnProperty", "__lookupGetter__",
    "__lookupSetter__", "isPrototypeOf", "propertyIsEnumerable", "toString", "valueOf",
    "__proto__", "toLocaleString"].map String.toList

/-- What is found under a key: a room, or what every object inherits under that name. -/
inductive Property (ν : Type) where
  | room (room : Room ν)
  | inherited (key : Text)
deriving DecidableEq

/-- The body of a response. -/
inductive Body (ν : Type) where
  | success (room : Property ν)
  | failure (message : Text)
deriving DecidableEq

/-- A response of the backend. -/
structure Response (ν : Type) where
  statusCode : Nat
  body : Body ν
deriving DecidableEq

namespace Response

variable {ν : Type}

def created (room : Room ν) : Response ν where
  statusCode := 201
  body := .success (.room room)

def ok (room : Property ν) : Response ν where
  statusCode := 200
  body := .success room

def notFound : Response ν where
  statusCode := 404
  body := .failure "Room not found".toList

end Response

/-- A handler answers or throws. -/
abbrev Answer (ν : Type) := Except Text (Response ν)

variable {ν : Type}

/-- The look-up of a key in the table. -/
def Rooms.read (rooms : Rooms ν) (key : Text) : Option (Property ν) :=
  match rooms key with
  | some room => some (.room room)
  | none => if key ∈ objectPrototype then some (.inherited key) else none

/-- The id cut out of a generated text. -/
def newRoomId (uuid : Text) : Text :=
  "SB-".toList ++ (uuid.take 6).map Char.toUpper

/-- The room of a host. -/
def newRoom (roomName hostName : ν) (uuid : Text) (now : Int) : Room ν where
  roomId := newRoomId uuid
  roomName := roomName
  hostName := hostName
  members := [{ name := hostName, host := true }]
  createdAt := now

/-- The room with a name in it, which is added if no member has it. -/
def Room.join [DecidableEq ν] (room : Room ν) (userName : ν) : Room ν :=
  if room.members.any fun member => decide (member.name = userName) then room
  else { room with members := room.members ++ [{ name := userName, host := false }] }

/-! ## The handlers -/

/-- The table of rooms, whether the socket server is there, what was sent to the sockets of
which room, and which names were admitted to which ids, both latest first. -/
structure Controller (ν : Type) where
  rooms : Rooms ν
  io : Bool
  emitted : List (Text × Room ν)
  admitted : List (Text × ν)

namespace Controller

/-- No rooms and no socket server. -/
def initial : Controller ν where
  rooms := fun _ => none
  io := false
  emitted := []
  admitted := []

/-- The socket server is there from now on. -/
def initSocket (c : Controller ν) : Controller ν :=
  { c with io := true }

/-- A room is stored, over whatever has its id. -/
def createRoom (c : Controller ν) (roomName hostName : ν) (uuid : Text) (now : Int) :
    Answer ν × Controller ν :=
  let room := newRoom roomName hostName uuid now
  (.ok (.created room),
    { c with
      rooms := Function.update c.rooms room.roomId (some room)
      admitted := (room.roomId, hostName) :: c.admitted })

/-- The room that was found is stored with the new name and sent to its sockets, if there are
any. -/
def addMember [DecidableEq ν] (c : Controller ν) (roomId : Text) (room : Room ν)
    (userName : ν) : Controller ν :=
  let joined := room.join userName
  { c with
    rooms := Function.update c.rooms roomId (some joined)
    emitted := if c.io then (roomId, joined) :: c.emitted else c.emitted
    admitted := (roomId, userName) :: c.admitted }

/-- What is found is taken for a room; what is no room has no members to search. -/
def joinRoom [DecidableEq ν] (c : Controller ν) (roomId : Text) (userName : ν) :
    Answer ν × Controller ν :=
  match c.rooms.read roomId with
  | none => (.ok .notFound, c)
  | some (.room room) =>
      (.ok (.ok (.room (room.join userName))), c.addMember roomId room userName)
  | some (.inherited _) =>
      (.error "Cannot read properties of undefined (reading 'find')".toList, c)

/-- The answer to a look-up, whatever is found. -/
def getRoom (c : Controller ν) (roomId : Text) : Answer ν :=
  match c.rooms.read roomId with
  | none => .ok .notFound
  | some room => .ok (.ok room)

end Controller

/-! ## Look-ups -/

theorem Rooms.read_of_some {rooms : Rooms ν} {key : Text} {room : Room ν}
    (h : rooms key = some room) : rooms.read key = some (.room room) := by
  rw [Rooms.read, h]

/-- Nothing is found only under keys that no object has. -/
theorem Rooms.read_eq_none_iff {rooms : Rooms ν} {key : Text} :
    rooms.read key = none ↔ rooms key = none ∧ key ∉ objectPrototype := by
  unfold Rooms.read
  cases rooms key with
  | none => simp
  | some room => simp

theorem Rooms.read_of_inherited {rooms : Rooms ν} {key : Text} (h : rooms key = none)
    (hkey : key ∈ objectPrototype) : rooms.read key = some (.inherited key) := by
  simp only [Rooms.read, h, if_pos hkey]

namespace Controller

variable {c : Controller ν} {roomId : Text}

/-- The answer under a key that the table owns. -/
theorem getRoom_of_some {room : Room ν} (h : c.rooms roomId = some room) :
    c.getRoom roomId = .ok (.ok (.room room)) := by
  rw [getRoom, Rooms.read_of_some h]

/-- A room in the answer is the one in the table. -/
theorem getRoom_eq_room {room : Room ν} (h : c.getRoom roomId = .ok (.ok (.room room))) :
    c.rooms roomId = some room := by
  cases hroom : c.rooms roomId with
  | some stored =>
      rw [getRoom_of_some hroom] at h
      cases h
      rfl
  | none =>
      by_cases hkey : roomId ∈ objectPrototype
      · rw [getRoom, Rooms.read_of_inherited hroom hkey] at h
        cases h
      · rw [getRoom, Rooms.read_eq_none_iff.mpr ⟨hroom, hkey⟩] at h
        cases h

variable [DecidableEq ν]

theorem joinRoom_of_some {room : Room ν} (h : c.rooms roomId = some room) (userName : ν) :
    c.joinRoom roomId userName =
      (.ok (.ok (.room (room.join userName))), c.addMember roomId room userName) := by
  rw [joinRoom, Rooms.read_of_some h]

/-- Under a key that the table does not own nothing is stored. -/
theorem joinRoom_of_none (h : c.rooms roomId = none) (userName : ν) :
    (c.joinRoom roomId userName).2 = c := by
  by_cases hkey : roomId ∈ objectPrototype
  · rw [joinRoom, Rooms.read_of_inherited h hkey]
  · rw [joinRoom, Rooms.read_eq_none_iff.mpr ⟨h, hkey⟩]

/-- A key that the table does not own is refused exactly if no object has it. -/
theorem refused_iff (h : c.rooms roomId = none) :
    (c.getRoom roomId = .ok .notFound ∧
      ∀ userName, c.joinRoom roomId userName = (.ok .notFound, c)) ↔
        roomId ∉ objectPrototype := by
  constructor
  · rintro ⟨hget, -⟩ hkey
    rw [getRoom, Rooms.read_of_inherited h hkey] at hget
    cases hget
  · intro hkey
    have hread := Rooms.read_eq_none_iff.mpr ⟨h, hkey⟩
    refine ⟨by rw [getRoom, hread], ?_⟩
    intro userName
    rw [joinRoom, hread]

end Controller
end Backend
end EchoSync
