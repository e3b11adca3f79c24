import EchoSync.Runtime.Duration

/-!
# Streaming Engine - Packets, errors and configuration

The packet type moved through every layer, the error type of the Streaming
Engine and its configuration record.

Main results:

- Theorem {lit}`AudioPacket.new_size_le`: a packet built by its constructor
  carries no more payload than the limit it was checked against, and records
  the size of that payload.
-/

namespace EchoSync
namespace Streaming

/-- Bit flags describing special characteristics of a packet. -/
structure PacketFlags where
  bits : BitVec 8
deriving DecidableEq

/-- The errors of the Streaming Engine. -/
inductive StreamingError where
  | queueOverflow (capacity : Nat)
  | queueClosed
  | packetTooLarge (limit actual : Nat)
  | engineNotRunning
  | engineAlreadyRunning
  | sendFailed (reason : String)
  | operationTimedOut
  | invalidState (reason : String)
  | transportUnavailable
deriving DecidableEq

/-- A single unit of audio.  The payload is opaque to every layer, and the size
field is public data that travels beside it. -/
structure AudioPacket where
  packetId : U64
  sequenceNumber : U64
  timestampMs : U64
  opusData : List (BitVec 8)
  packetSize : Nat
  flags : PacketFlags
  senderId : String
  sessionId : String
deriving DecidableEq

/-- Stamp a payload with the wall-clock time, rejecting an oversized one. -/
def AudioPacket.new (packetId sequenceNumber : U64) (opusData : List (BitVec 8))
    (flags : PacketFlags) (senderId sessionId : String) (maxPacketSizeBytes : Nat)
    (currentTimestampMs : U64) : Except StreamingError AudioPacket :=
  let packetSize := opusData.length
  if packetSize > maxPacketSizeBytes then
    .error (.packetTooLarge maxPacketSizeBytes packetSize)
  else
    .ok
      { packetId, sequenceNumber, timestampMs := currentTimestampMs, opusData,
        packetSize, flags, senderId, sessionId }

/-- The small packet that the tests of the source build. -/
def makePacket (packetId sequenceNumber timestampMs : U64) : AudioPacket where
  packetId := packetId
  sequenceNumber := sequenceNumber
  timestampMs := timestampMs
  opusData := List.replicate 8 0
  packetSize := 8
  flags := { bits := 0 }
  senderId := "device-a"
  sessionId := "session-1"

/-- A constructed packet is within the limit and records its own payload size. -/
theorem AudioPacket.new_size_le {packetId sequenceNumber now : U64}
    {opusData : List (BitVec 8)} {flags : PacketFlags} {senderId sessionId : String}
    {limit : Nat} {packet : AudioPacket}
    (h : AudioPacket.new packetId sequenceNumber opusData flags senderId sessionId
      limit now = .ok packet) :
    packet.packetSize = packet.opusData.length ∧ packet.opusData.length ≤ limit := by
  unfold AudioPacket.new at h
  dsimp only at h
  split_ifs at h with hsize
  · cases h
    exact ⟨rfl, not_lt.mp hsize⟩

/-- Runtime configuration of the Streaming Engine. -/
structure StreamingConfig where
  outboundQueueCapacity : Nat
  inboundQueueCapacity : Nat
  packetTimeout : Duration
  maxPacketSizeBytes : Nat
  maxRetryCount : U32
  retryBackoff : Duration
  workerCount : Nat
deriving DecidableEq

/-- The production defaults. -/
def StreamingConfig.default : StreamingConfig where
  outboundQueueCapacity := 512
  inboundQueueCapacity := 512
  packetTimeout := Duration.fromMillis 200
  maxPacketSizeBytes := 4000
  maxRetryCount := 3
  retryBackoff := Duration.fromMillis 20
  workerCount := 2

end Streaming
end EchoSync
