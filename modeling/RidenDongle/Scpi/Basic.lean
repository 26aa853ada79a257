import Mathlib.Data.List.Basic

/-!
# The SCPI server

`RidenScpi`: the raw socket server, the SCPI parser's input buffer and the
output buffer that the parser's callbacks `SCPI_Write` and `SCPI_Flush` fill
and drain (`riden_scpi.h`, `riden_scpi.cpp`).

* The two buffers are the lists of the bytes they hold, so that `position` and
  `write_buffer_length` are the lengths of the lists; nothing reads the arrays
  past those.
* The type `α` of input bytes has a byte under every value (`Octet`), which is
  all that `loop` looks at, and output bytes are of any type `β`: both may
  carry ghost labels.
* The parser is not modelled. What it does with one line is an `Execution`,
  given with every call that runs one: the data of its calls of `SCPI_Write`,
  and whether the raw client is gone by the time it calls `SCPI_Flush`, which
  it does once after a line that produced output.

The fields `inputs`, `stores` and `sent` are ghost: the buffers parsed, the
ranges of `write_buffer` stored to and what was sent to raw clients.
-/

namespace RidenDongle

/-- A byte, perhaps with more attached to it. -/
class Octet (α : Type*) where
  val : α → UInt8

instance : Octet UInt8 := ⟨id⟩

instance {τ : Type*} : Octet (τ × UInt8) := ⟨Prod.snd⟩

abbrev writeBufferLength : ℕ := 256
abbrev scpiInputBufferLength : ℕ := 256

/-- `scpi_result_t`. -/
inductive ScpiResult
  | ok
  | err
  deriving DecidableEq

/-- A raw socket client: the connection `id` (ghost), its address, whether it
    is still connected, and the bytes that were not read from it yet. -/
structure RawClient (α : Type*) where
  id : ℕ
  ip : ℕ
  connected : Bool
  unread : List α
  deriving DecidableEq

/-- What the parser does with a line. -/
structure Execution (β : Type*) where
  output : List (List β)
  clientGone : Bool
  deriving DecidableEq

structure RidenScpi (α β : Type*) where
  /-- `scpi_context.buffer.data`, up to `scpi_context.buffer.position`. -/
  inputBuffer : List α
  /-- `scpi_context.buffer.length`. -/
  inputLength : ℕ
  /-- `write_buffer`, up to `write_buffer_length`. -/
  writeBuffer : List β
  externalControl : Bool
  externalOutputReady : Bool
  client : Option (RawClient α)
  inputs : List (List α)
  stores : List (ℕ × ℕ)
  sent : List (ℕ × List β)
  deriving DecidableEq

namespace RidenScpi

variable {α β : Type*}

/-- The server after its `begin`. -/
def initial : RidenScpi α β where
  inputBuffer := []
  inputLength := scpiInputBufferLength
  writeBuffer := []
  externalControl := false
  externalOutputReady := false
  client := none
  inputs := []
  stores := []
  sent := []

variable (s : RidenScpi α β)

/-! ## Callbacks of the parser -/

/-- `SCPI_Write`. What does not fit in `write_buffer` runs over into the members behind it,
    outside this model: `OutputBound` says that it fits. -/
def scpiWrite (data : List β) : RidenScpi α β :=
  { s with
    -- don't send half baked data to the client
    externalOutputReady := false
    stores := s.stores ++ [(s.writeBuffer.length, data.length)]
    writeBuffer := s.writeBuffer ++ data }

/-- `SCPI_Flush`. -/
def scpiFlush : RidenScpi α β :=
  if s.externalControl then
    { s with externalOutputReady := true }
  else
    match s.client with
    | some c => { s with sent := s.sent ++ [(c.id, s.writeBuffer)], writeBuffer := [] }
    | none => s

/-- The raw client is found gone if the execution says so. -/
def loseClient (gone : Bool) : RidenScpi α β :=
  if gone then { s with client := none } else s

/-- `SCPI_Input(&scpi_context, NULL, 0)`: the parser runs the bytes in the input
    buffer and sets `position` to 0. -/
def scpiInput (ex : Execution β) : RidenScpi α β :=
  let s := { s with inputs := s.inputs ++ [s.inputBuffer] }
  let s := ex.output.foldl scpiWrite s
  let s := s.loseClient ex.clientGone
  let s := if ex.output.isEmpty then s else s.scpiFlush
  { s with inputBuffer := [] }

/-! ## Interface of the VXI server -/

def claimExternalControl : Bool × RidenScpi α β :=
  (true, { s with externalControl := true })

def releaseExternalControl : RidenScpi α β :=
  { s with externalControl := false }

/-- `RidenScpi::write`. -/
def write (data : List α) (ex : Execution β) : RidenScpi α β :=
  if data.length = 0 then s
  else if data.length > scpiInputBufferLength then s
  else
    let s := { s with inputBuffer := data, inputLength := data.length, externalControl := true }
    s.scpiInput ex

/-- `RidenScpi::read`: the result, the bytes copied to `data` (`*len` of them),
    and the server. -/
def read (maxLen : ℕ) : ScpiResult × List β × RidenScpi α β :=
  if !s.externalControl then (.err, [], s)
  else if s.writeBuffer.length > maxLen then (.err, [], s)
  else if !s.externalOutputReady then (.err, [], s)
  else (.ok, s.writeBuffer, { s with writeBuffer := [] })

/-! ## The raw socket server -/

def resetBuffers : RidenScpi α β :=
  { s with writeBuffer := [], inputLength := 0, inputBuffer := [] }

/-- `client.stop()`. -/
def stopClient : RidenScpi α β := { s with client := none }

/-- The part of `loop` that takes a new client, unless there is one. -/
def accept : Option (RawClient α) → RidenScpi α β
  | none => s
  | some new => if s.client.isNone then { s with client := some new }.resetBuffers else s

/-- The client with `bs` left to be read. -/
def setUnread (bs : List α) : RidenScpi α β :=
  { s with client := s.client.map fun c => { c with unread := bs } }

/-- The loop that reads up to a newline, over the bytes `readBytes` can get: the
    server, and whether it stopped at a newline, to run the line. -/
def readLine [Octet α] : List α → RidenScpi α β → RidenScpi α β × Bool
  | [], s => (s.setUnread [], false)
  | b :: bs, s =>
    if s.inputBuffer.length ≥ scpiInputBufferLength then
      -- Client is sending more data than we can handle
      ({ s with inputBuffer := [], inputLength := 0 }.stopClient, false)
    else
      let s := { s with inputBuffer := s.inputBuffer ++ [b], inputLength := s.inputLength + 1 }
      if Octet.val b = 10 then (s.setUnread bs, true) else readLine bs s

/-- The part of `loop` that checks for incoming data. -/
def fetch [Octet α] : RidenScpi α β × Bool :=
  match s.client with
  | some c => if c.unread.length > 0 then s.readLine c.unread else (s, false)
  | none => (s, false)

/-- The part of `loop` that stops a client which disconnects. -/
def dropDisconnected : RidenScpi α β :=
  match s.client with
  | some c => if c.connected then s else s.stopClient
  | none => s

/-- `RidenScpi::loop`. What the parser does with a line may depend on the client
    whose line it is. -/
def loop [Octet α] (new : Option (RawClient α)) (ex : ℕ → Execution β) : RidenScpi α β :=
  if s.externalControl then s.stopClient
  else
    let s := s.accept new
    let id := s.client.elim 0 RawClient.id
    let (s, line) := s.fetch
    let s := if line then s.scpiInput (ex id) else s
    s.dropDisconnected

/-- `RidenScpi::disconnect_client`. -/
def disconnectClient (ip : ℕ) : RidenScpi α β :=
  match s.client with
  | some c => if c.connected ∧ c.ip = ip then s.stopClient else s
  | none => s

end RidenScpi

end RidenDongle
