import VirtualAX25.Entry

/-!
# The driver as a service

What the driver is for, as NDIS sees it. A board is a miniport : what it was registered
with, and the claims made on it, sixteen at most, in the order they were made. A port is an
adapter that is up : the handle its block was allocated with, and whether it runs.

An entry is answered out of this memory (`Op.reply`) : with a status, the calls it makes,
and the memory it leaves. There are no slots to search, no constants of the headers, no
old contents of blocks, and of an adapter's seven states two. Pointers are as good as they
are in the driver, so an entry can fault.
-/

namespace VirtualAX25

namespace Service

/-! ## Memory -/

/-- An adapter that is up. -/
structure Port where
  handle : NdisHandle
  running : Bool

/-- A miniport. -/
structure Board where
  handle : NdisHandle
  object : Pointer
  /-- Interface number and pointer of each claim, the oldest first. -/
  claims : List (NetIfIndex × Pointer)
  length_le : claims.length ≤ 16

namespace Board

/-- A miniport that is not registered. -/
def empty : Board where
  handle := nullptr
  object := nullptr
  claims := []
  length_le := Nat.zero_le _

/-- NDIS answered a registration. -/
def register (b : Board) (object : Pointer) (answers : RegisterAnswers) : Board :=
  { b with
    handle := if ntSuccess answers.status then answers.handle else nullptr
    object := if ntSuccess answers.status then object else nullptr }

theorem length_append_le {claims : List (NetIfIndex × Pointer)} (h : claims.length < 16)
    (c : NetIfIndex × Pointer) : (claims ++ [c]).length ≤ 16 := by
  simp
  omega

/-- Add a claim, if there is room. -/
def claim (b : Board) (parameters : InitParameters) (p : Pointer) : Board :=
  if h : b.claims.length < 16 then
    { b with
      claims := b.claims ++ [(parameters.ifIndex, p)]
      length_le := length_append_le h _ }
  else b

/-- The pointers of the claims. -/
def pointers (b : Board) : List Pointer :=
  b.claims.map Prod.snd

section Claim

variable (b : Board) (parameters : InitParameters) (p : Pointer)

theorem claims_claim (h : b.claims.length < 16) :
    (b.claim parameters p).claims = b.claims ++ [(parameters.ifIndex, p)] := by
  simp [claim, h]

@[simp] theorem handle_claim : (b.claim parameters p).handle = b.handle := by
  unfold claim
  split_ifs <;> rfl

@[simp] theorem object_claim : (b.claim parameters p).object = b.object := by
  unfold claim
  split_ifs <;> rfl

end Claim

end Board

/-- The miniports, the adapters that are up, and the miniport an unload is for. -/
structure Memory where
  active : Pointer
  boards : Pointer → Option Board
  ports : Pointer → Option Port

/-! ## Calls -/

/-- What the service does that can be seen from outside. -/
inductive Action
  | startTracing (driverObject registryPath : Pointer)
  | stopTracing (driverObject : Pointer)
  | takePool (answer : PoolAnswer)
  | givePool (pointer : Pointer)
  | register (driverObject registryPath context : Pointer) (answers : RegisterAnswers)
  | deregister (handle : NdisHandle)
  | take (handle : NdisHandle) (block : Pointer)
  | give (handle : NdisHandle) (block : Pointer)
  | initialiseDpc (context : Pointer)
  | setRegistration (handle : NdisHandle) (context : Pointer) (status : NdisStatus)
  | setGeneral (handle : NdisHandle) (status : NdisStatus)
  | report (handle : NdisHandle) (code : NdisErrorCode) (values : List UInt32)
  | mark (lists : List Pointer) (status : NdisStatus)
  | complete (handle : NdisHandle) (lists : List Pointer) (flags : UInt32)
  | constructed (this : Pointer)
  | destroyed (this : Pointer)
  | returned (op : Op) (status : Option NdisStatus)

/-- How an entry is answered. -/
structure Reply where
  status : Option NdisStatus
  /-- The calls made, the newest first. -/
  calls : List Action
  memory : Memory

namespace Memory

/-- No miniport and no adapter. -/
def empty : Memory where
  active := nullptr
  boards := fun _ => none
  ports := fun _ => none

variable (m : Memory)

def setBoard (this : Pointer) (b : Option Board) : Memory :=
  { m with boards := Function.update m.boards this b }

def setPort (p : Pointer) (port : Option Port) : Memory :=
  { m with ports := Function.update m.ports p port }

/-- The answer of an entry that changes nothing. -/
def same (status : Option NdisStatus) (calls : List Action) : Reply where
  status := status
  calls := calls
  memory := m

/-! ## Miniports -/

/-- A miniport with the registration of `b` starts, and is the active one. -/
def start (this : Pointer) (b : Board) : Memory :=
  { m.setBoard this (some b) with active := this }

/-- Get memory for a miniport, and register it. -/
def load (object path : Pointer) (answers : EntryAnswers) : Reply :=
  if answers.pool.address = nullptr then
    { status := some statusNoMemory
      calls := [.takePool answers.pool, .startTracing object path]
      memory := m }
  else
    { status := some answers.register.status
      calls := (if ntSuccess answers.register.status then [] else [.stopTracing object]) ++
        [.register object path answers.pool.address answers.register,
          .constructed answers.pool.address, .takePool answers.pool, .startTracing object path]
      memory := m.start answers.pool.address (Board.empty.register object answers.register) }

/-- Register a miniport. -/
def register (this object path : Pointer) (answers : RegisterAnswers) : Except Fault Reply :=
  (Heap.read m.boards this).bind fun b =>
    .ok
      { status := some answers.status
        calls := [.register object path this answers]
        memory := m.setBoard this (some (b.register object answers)) }

/-! ## Adapters -/

/-- Tell NDIS about an adapter; in general only if it accepts the registration. -/
def describe (handle : NdisHandle) (p : Pointer) (registration general : NdisStatus) :
    List Action :=
  if registration = ndisStatusSuccess then
    [.setGeneral handle general, .setRegistration handle p registration]
  else [.setRegistration handle p registration]

/-- Bring up an adapter. A claim is made whether or not there is memory for it. -/
def initialise (this : Pointer) (parameters : Option InitParameters) (answers : InitAnswers) :
    Except Fault Reply :=
  (Heap.read m.boards this).bind fun b =>
    if b.claims.length = 16 then
      .ok
        { status := some ndisStatusResources
          calls := [.report b.handle .outOfResources [16]]
          memory := m }
    else
      match parameters with
      | none => .error .nullPointer
      | some parameters =>
        if b.handle = nullptr ∨ answers.block.address = nullptr then
          .ok
            { status := some ndisStatusResources
              calls := .report b.handle .outOfResources [] ::
                if b.handle = nullptr then [] else [.take b.handle nullptr]
              memory := m.setBoard this (some (b.claim parameters nullptr)) }
        else
          .ok
            { status := some (if answers.registration = ndisStatusSuccess then answers.general
                else answers.registration)
              calls := describe b.handle answers.block.address answers.registration
                  answers.general ++
                [.initialiseDpc answers.block.address, .take b.handle answers.block.address]
              memory := (m.setBoard this (some (b.claim parameters answers.block.address))).setPort
                answers.block.address (some { handle := b.handle, running := false }) }

/-- NDIS announces an adapter to the miniport at `context`, under the handle it knows. -/
def announce (handle context : NdisHandle) (parameters : Option InitParameters)
    (answers : InitAnswers) : Except Fault Reply :=
  if context = nullptr then .ok (m.same (some statusInvalidParameter2) [])
  else (Heap.read m.boards context).bind fun b =>
    if handle ≠ b.handle then .ok (m.same (some statusInvalidParameter1) [])
    else m.initialise context parameters answers

/-- Halt an adapter. -/
def halt (p : Pointer) : Except Fault Reply :=
  (Heap.read m.ports p).bind fun port =>
    .ok { status := none, calls := [.give port.handle p], memory := m.setPort p none }

/-- Set whether an adapter runs. -/
def setRunning (p : Pointer) (running : Bool) : Except Fault Reply :=
  (Heap.read m.ports p).bind fun port =>
    .ok
      { status := some ndisStatusSuccess
        calls := []
        memory := m.setPort p (some { port with running := running }) }

/-- Pause an adapter. -/
def pause (context : NdisHandle) : Except Fault Reply :=
  if context = nullptr then .ok (m.same (some statusInvalidParameter) [])
  else m.setRunning context false

/-- Restart an adapter. -/
def restart (context : NdisHandle) (parameters : Pointer) : Except Fault Reply :=
  if context = nullptr then .ok (m.same (some statusInvalidParameter1) [])
  else if parameters = nullptr then .ok (m.same (some statusInvalidParameter2) [])
  else m.setRunning context true

/-- No OID is implemented. -/
def request (context : NdisHandle) (oidRequest : Pointer) : Except Fault Reply :=
  if context = nullptr then .ok (m.same (some statusInvalidParameter1) [])
  else if oidRequest = nullptr then .ok (m.same (some statusInvalidParameter2) [])
  else (Heap.read m.ports context).bind fun _ => .ok (m.same (some statusNotImplemented) [])

/-! ## Going away -/

/-- Halt the adapters at `ps`, one after another, after the calls `calls`. -/
def haltAll : Memory → List Action → List Pointer → Except Fault Reply
  | m, calls, [] => .ok { status := none, calls := calls, memory := m }
  | m, calls, p :: ps => (m.halt p).bind fun r => haltAll r.memory (r.calls ++ calls) ps

/-- The memory while the miniport at `this` goes away. -/
def without (this : Pointer) : Memory :=
  { m.setBoard this none with active := if this = m.active then nullptr else m.active }

/-- A miniport goes away, and halts the adapters it claims. -/
def destroy (this : Pointer) : Except Fault Reply :=
  (Heap.read m.boards this).bind fun b =>
    haltAll (m.without this) [.destroyed this] b.pointers

/-- The active miniport goes away, with its memory. -/
def unload : Except Fault Reply :=
  if m.active = nullptr then .ok { status := none, calls := [], memory := m }
  else (m.destroy m.active).map fun r => { r with calls := .givePool m.active :: r.calls }

/-! ## Buffers -/

/-- A chain sent without a context comes back; one sent to an adapter does not. -/
def send (context : NdisHandle) (lists : List Pointer) (flags : UInt32) : Except Fault Reply :=
  if context = nullptr then
    (Heap.read m.boards m.active).bind fun b =>
      .ok (m.same none [.complete b.handle lists (Miniport.completeFlags flags),
        .mark lists ndisStatusFailure])
  else (Heap.read m.ports context).bind fun _ => .ok (m.same none [])

/-- A chain that comes back without a context is reported. -/
def takeBack (context : NdisHandle) : Except Fault Reply :=
  if context = nullptr then
    (Heap.read m.boards m.active).bind fun b =>
      .ok (m.same none [.report b.handle .driverFailure
        [Miniport.ax25CriticalErrorNdisLeakBufferLists]])
  else (Heap.read m.ports context).bind fun _ => .ok (m.same none [])

/-! ### What is left alone -/

section Frame

variable (this p : Pointer) (b : Board) (c : Option Board) (port : Option Port)

@[simp] theorem same_calls (status : Option NdisStatus) (calls : List Action) :
    (m.same status calls).calls = calls :=
  rfl

@[simp] theorem same_memory (status : Option NdisStatus) (calls : List Action) :
    (m.same status calls).memory = m :=
  rfl

@[simp] theorem setPort_self : m.setPort p (m.ports p) = m := by
  simp [setPort]

@[simp] theorem setPort_ports : (m.setPort p port).ports = Function.update m.ports p port :=
  rfl

@[simp] theorem setPort_boards : (m.setPort p port).boards = m.boards :=
  rfl

@[simp] theorem setBoard_boards : (m.setBoard this c).boards = Function.update m.boards this c :=
  rfl

@[simp] theorem setBoard_ports : (m.setBoard this c).ports = m.ports :=
  rfl

@[simp] theorem start_boards : (m.start this b).boards = Function.update m.boards this (some b) :=
  rfl

@[simp] theorem start_ports : (m.start this b).ports = m.ports :=
  rfl

theorem start_setBoard (b' : Board) :
    (m.start this b).setBoard this (some b') = m.start this b' := by
  simp [start, setBoard]

@[simp] theorem without_boards : (m.without this).boards = Function.update m.boards this none :=
  rfl

@[simp] theorem without_ports : (m.without this).ports = m.ports :=
  rfl

end Frame

end Memory

end Service

open Service

/-! ## Entries -/

/-- Answer a callback. -/
def Callback.reply (m : Memory) : Callback → Except Fault Reply
  | .initializeEx handle context parameters answers => m.announce handle context parameters answers
  | .haltEx context _ => m.halt context
  | .driverUnload _ => m.unload
  | .pause context _ => m.pause context
  | .restart context parameters => m.restart context parameters
  | .oidRequest context request => m.request context request
  | .sendNetBufferLists context lists _ flags => m.send context lists flags
  | .returnNetBufferLists context _ _ => m.takeBack context

/-- Answer an entry. -/
def Op.reply (m : Memory) : Op → Except Fault Reply
  | .driverEntry object path answers => .ok (m.load object path answers)
  | .constructMiniport this =>
    .ok { status := none, calls := [.constructed this], memory := m.start this .empty }
  | .destroyMiniport this => m.destroy this
  | .registerWithNdis this object path answers => m.register this object path answers
  | .miniportInitializeEx this parameters answers => m.initialise this parameters answers
  | .callback c => c.reply m

/-- The service : its memory, and what could be seen of it, the newest first. -/
structure Service where
  memory : Memory
  trace : List Action

namespace Service

def initial : Service where
  memory := .empty
  trace := []

/-- Answer an entry, and return. -/
def step (s : Service) (op : Op) : Except Fault Service :=
  (op.reply s.memory).map fun r =>
    { memory := r.memory, trace := .returned op r.status :: (r.calls ++ s.trace) }

end Service

/-! ## What the outside keeps to -/

/-- `Callback.Valid`, read off the service. -/
def Callback.ValidIn (m : Memory) : Callback → Prop
  | .initializeEx _ context _ answers =>
    (context = nullptr ∨ (m.boards context).isSome) ∧ ¬(m.ports answers.block.address).isSome
  | .driverUnload _ => True
  | .haltEx context _ | .pause context _ | .restart context _ | .oidRequest context _
  | .sendNetBufferLists context _ _ _ | .returnNetBufferLists context _ _ =>
    context = nullptr ∨ (m.ports context).isSome

/-- `Op.Valid`, read off the service. -/
def Op.ValidIn (m : Memory) : Op → Prop
  | .driverEntry _ _ answers => ¬(m.boards answers.pool.address).isSome
  | .constructMiniport this => this ≠ nullptr ∧ ¬(m.boards this).isSome
  | .destroyMiniport this => (m.boards this).isSome
  | .registerWithNdis this _ _ _ => (m.boards this).isSome
  | .miniportInitializeEx this parameters answers =>
    (m.boards this).isSome ∧ parameters.isSome ∧ ¬(m.ports answers.block.address).isSome
  | .callback c => c.ValidIn m

/-! ## What does not matter -/

/-- The answers, with nothing in the block. -/
def InitAnswers.forget (answers : InitAnswers) : InitAnswers :=
  { answers with block := { answers.block with contents := AX25Adapter.zeroBlock } }

/-- The callback, without the contents of memory. -/
def Callback.forget : Callback → Callback
  | .initializeEx handle context parameters answers =>
    .initializeEx handle context parameters answers.forget
  | c => c

/-- The entry, without the contents of memory. -/
def Op.forget : Op → Op
  | .miniportInitializeEx this parameters answers =>
    .miniportInitializeEx this parameters answers.forget
  | .callback c => .callback c.forget
  | op => op

end VirtualAX25
