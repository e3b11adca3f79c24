import EchoSync.Api.Server

/-!
# API Server - Answered rooms

An id comes from the clock and a room is stored over whatever has its id, so an answered room
is found under its id as long as no other room was stored there.

Main results:

- Theorem {lit}`Tabled.rooms_generateRoomId`: the room under an id is the last one that was
  stored under a congruent reading of the clock.
- Theorem {lit}`rooms_served_iff`: exactly when that room has the names of the answered one,
  every look-up on its id answers them.
-/

namespace EchoSync
namespace Api

open TransitionSystem

/-- The path of a room. -/
def roomPath (id : Text) : Text :=
  roomsPath ++ id

/-- The path of a room is a path on its id. -/
theorem trimStartMatches_roomPath {id : Text} (h : id.length = 6) :
    trimStartMatches roomsPath (roomPath id) = id := by
  have hlength : roomsPath.length = 11 := by
    decide
  apply trimStartMatches_append
  · exact List.ne_nil_of_length_eq_add_one hlength
  · omega

namespace ApiServer

variable {r : ApiServer} {clock reading : SystemTime} {actions : List Action}
  {creation : Creation} {response : Response}

/-- The creation that was the last to store its room under a reading of the clock that is
congruent to this one. -/
def lastStored (r : ApiServer) (reading : SystemTime) : Option Creation :=
  r.stored.find? fun creation => decide (creation.reading.millis ≡ reading.millis [MOD idCount])

/-- The room under an id is the last one stored under a congruent reading. -/
theorem Tabled.rooms_generateRoomId (h : r.Tabled) (reading : SystemTime) :
    r.rooms (generateRoomId reading) = (r.lastStored reading).map Creation.room := by
  rw [h.rooms, lastStored]
  congr 1
  apply List.find?_congr
  intro creation hcreation
  rw [h.ids creation hcreation, decide_eq_decide]
  exact generateRoomId_eq_iff

/-- A stored room is under its id, or one stored later is. -/
theorem Tabled.exists_lastStored (h : r.Tabled) (hstored : creation ∈ r.stored) :
    ∃ last, r.lastStored creation.reading = some last ∧
      last.room.roomId = creation.room.roomId := by
  have hfound : (r.lastStored creation.reading).isSome = true := by
    rw [lastStored, List.find?_isSome]
    exact ⟨creation, hstored, decide_eq_true rfl⟩
  rcases Option.isSome_iff_exists.mp hfound with ⟨last, hlast⟩
  refine ⟨last, hlast, ?_⟩
  have hcongruent : last.reading.millis ≡ creation.reading.millis [MOD idCount] := by
    unfold lastStored at hlast
    have hfound := List.find?_some hlast
    exact of_decide_eq_true hfound
  rw [h.ids last (List.mem_of_find?_eq_some hlast), h.ids creation hstored]
  exact generateRoomId_eq_iff.mpr hcongruent

/-- Every look-up made in this state on the id of an answered creation answers the room that
the creation stored. -/
def Serves (r : ApiServer) : Prop :=
  ∀ creation response, Phase.created creation response ∈ r.calls →
    ∀ path, trimStartMatches roomsPath path = creation.room.roomId →
      getRoom path r.rooms = .ok (roomJson creation.room)

/-- Of the creations whose readings are congruent to that of an answered creation, the last
one that has stored its room has the names of the answered one. -/
def KeepsNames (r : ApiServer) : Prop :=
  ∀ creation response, Phase.created creation response ∈ r.calls →
    ∀ last ∈ r.lastStored creation.reading,
      last.room.roomName = creation.room.roomName ∧ last.room.hostName = creation.room.hostName

/-- One answered creation. -/
theorem Tabled.served_iff (h : r.Tabled) (hcreated : Phase.created creation response ∈ r.calls) :
    (∀ path, trimStartMatches roomsPath path = creation.room.roomId →
        getRoom path r.rooms = .ok (roomJson creation.room)) ↔
      ∀ last ∈ r.lastStored creation.reading,
        last.room.roomName = creation.room.roomName ∧
          last.room.hostName = creation.room.hostName := by
  have hstored : creation ∈ r.stored := (h.threads _ hcreated).1
  have hid := h.ids creation hstored
  rcases h.exists_lastStored hstored with ⟨last, hlast, hsame⟩
  have hrooms : r.rooms creation.room.roomId = some last.room := by
    rw [hid, h.rooms_generateRoomId, hlast, Option.map_some]
  have hanswer : ∀ path, trimStartMatches roomsPath path = creation.room.roomId →
      getRoom path r.rooms = .ok (roomJson last.room) := by
    intro path hpath
    rw [getRoom, hpath, hrooms]
  have hpath : trimStartMatches roomsPath (roomPath creation.room.roomId) =
      creation.room.roomId := by
    rw [hid]
    exact trimStartMatches_roomPath (generateRoomId_length creation.reading)
  rw [hlast]
  constructor
  · intro hserved last' hlast'
    cases hlast'
    have hjson := hserved _ hpath
    rw [hanswer _ hpath, Response.ok, Response.ok, Response.mk.injEq] at hjson
    rw [roomJson_inj hjson.2.2]
    exact ⟨rfl, rfl⟩
  · intro hnames path hon
    rcases hnames last rfl with ⟨hname, hhost⟩
    have hroom : last.room = creation.room := Room.ext hsame hname hhost
    rw [hanswer path hon, hroom]

/-- In every state of every run: every look-up on the id of an answered creation answers the
names that the creation stored exactly when the last room stored under a congruent reading of
the clock has these names. -/
theorem rooms_served_iff (hrun : run step (initial clock) actions = some r) :
    r.Serves ↔ r.KeepsNames := by
  have htabled := run_tabled hrun
  constructor
  · intro hserves creation response hcreated
    exact (htabled.served_iff hcreated).mp (hserves creation response hcreated)
  · intro hkeeps creation response hcreated
    exact (htabled.served_iff hcreated).mpr (hkeeps creation response hcreated)

/-! ## Two rooms in one millisecond -/

/-- The body of a request for a room of one host. -/
def roomNamed (roomName : Text) : Request where
  method := "POST".toList
  path := "/api/rooms/create".toList
  body := "\x7b\"roomName\":".toList ++ quoted roomName ++ "\x7d".toList

/-- A reading of the clock whose milliseconds are a multiple of the number of ids. -/
def roundReading : SystemTime where
  nanos := 800 * 36 ^ 6 * 1000000

/-- Two requests, each of which reads the clock and stores its room before either answers. -/
def twoRooms (first second : Text) : List Action :=
  [.request (roomNamed first), .request (roomNamed second), .call 0 roundReading,
    .call 1 roundReading, .call 0 roundReading, .call 1 roundReading, .call 0 roundReading,
    .call 1 roundReading]

/-- The room that a request makes at that reading. -/
def roomAt (roomName : Text) : Room where
  roomId := "000000".toList
  roomName := roomName
  hostName := "Host".toList

/-- Two rooms of one name in one millisecond have one id, and it answers their names. -/
theorem rooms_served_same :
    ∃ r, run step (initial roundReading) (twoRooms "A".toList "A".toList) = some r ∧
      r.rooms "000000".toList = some (roomAt "A".toList) ∧ r.Serves := by
  have hrun : ∃ r, run step (initial roundReading) (twoRooms "A".toList "A".toList) = some r ∧
      (r.rooms "000000".toList = some (roomAt "A".toList) ∧
        (∀ c ∈ r.stored, c.room = roomAt "A".toList)) :=
    exists_of_any (by decide +kernel)
  rcases hrun with ⟨r, hrun, hroom, hstored⟩
  refine ⟨r, hrun, hroom, (rooms_served_iff hrun).mpr ?_⟩
  intro creation response hcreated last hlast
  have hcreation := hstored creation ((run_tabled hrun).threads _ hcreated).1
  have hlast := hstored last (List.mem_of_find?_eq_some hlast)
  rw [hcreation, hlast]
  exact ⟨rfl, rfl⟩

/-- Two rooms in one millisecond: the first is answered with an id under which the second is
found. -/
theorem second_room_replaces_first :
    ∃ r, run step (initial roundReading) (twoRooms "A".toList "B".toList) = some r ∧
      Phase.created { room := roomAt "A".toList, reading := roundReading }
        (.ok (roomJson (roomAt "A".toList))) ∈ r.calls ∧
      getRoom (roomPath "000000".toList) r.rooms = .ok (roomJson (roomAt "B".toList)) ∧
      ¬ r.Serves := by
  have hrun : ∃ r, run step (initial roundReading) (twoRooms "A".toList "B".toList) = some r ∧
      (Phase.created { room := roomAt "A".toList, reading := roundReading }
        (.ok (roomJson (roomAt "A".toList))) ∈ r.calls ∧
      r.rooms "000000".toList = some (roomAt "B".toList)) :=
    exists_of_any (by decide +kernel)
  rcases hrun with ⟨r, hrun, hcreated, hroom⟩
  have hpath : trimStartMatches roomsPath (roomPath "000000".toList) = "000000".toList :=
    trimStartMatches_roomPath rfl
  have hanswer : getRoom (roomPath "000000".toList) r.rooms =
      .ok (roomJson (roomAt "B".toList)) := by
    rw [getRoom, hpath, hroom]
  refine ⟨r, hrun, hcreated, hanswer, ?_⟩
  intro hserves
  have hserved := hserves _ _ hcreated _ hpath
  rw [hanswer, Response.ok, Response.ok, Response.mk.injEq] at hserved
  have hsame := congrArg Room.roomName (roomJson_inj hserved.2.2)
  revert hsame
  decide

end ApiServer
end Api
end EchoSync
