import VirtualAX25.Miniport

/-!
# The entry points

`DriverEntry`, and the step function of the driver : an entry runs on the driver's state
and its return is logged. `Op.Valid` is what the outside keeps to in every run : memory
it hands out is disjoint from what is live, and the pointers it passes to callbacks are
null or point to a live object.
-/

namespace VirtualAX25

variable (hdr : NdisHeaders) (d : Driver)

/-- `DriverEntry` -/
def driverEntry (driverObject registryPath : Pointer) (answers : EntryAnswers) :
    Except Fault (NdisStatus × Driver) :=
  let d := d.record (.wppInitTracing driverObject registryPath)
  let r := Miniport.new hdr d answers.pool
  if r.1 = nullptr then .ok (statusNoMemory, r.2)
  else
    (Miniport.registerWithNdis hdr r.2 r.1 driverObject registryPath answers.register).bind
      fun result =>
        if ntSuccess result.1 = false then
          .ok (result.1, result.2.record (.wppCleanup driverObject))
        else .ok result

/-- A `void` entry returns no status. -/
def noStatus (r : Except Fault Driver) : Except Fault (Option NdisStatus × Driver) :=
  r.map fun d => (none, d)

/-- An entry that returns a status. -/
def withStatus (r : Except Fault (NdisStatus × Driver)) :
    Except Fault (Option NdisStatus × Driver) :=
  r.map fun r => (some r.1, r.2)

/-- Run a callback. -/
def Callback.call : Callback → Except Fault (Option NdisStatus × Driver)
  | .initializeEx handle context parameters answers =>
    withStatus (Miniport.miniportInitializeExCallback hdr d handle context parameters answers)
  | .haltEx context action => noStatus (Miniport.miniportHaltExCallback d context action)
  | .driverUnload object => noStatus (Miniport.miniportDriverUnloadCallback d object)
  | .pause context parameters =>
    withStatus (Miniport.miniportPauseCallback d context parameters)
  | .restart context parameters =>
    withStatus (Miniport.miniportRestartCallback d context parameters)
  | .oidRequest context request =>
    withStatus (Miniport.miniportOidRequestCallback d context request)
  | .sendNetBufferLists context lists port flags =>
    noStatus (Miniport.miniportSendNetBufferListsCallback d context lists port flags)
  | .returnNetBufferLists context lists flags =>
    noStatus (Miniport.miniportReturnNetBufferListsCallback d context lists flags)

/-- Run an entry. -/
def Op.call : Op → Except Fault (Option NdisStatus × Driver)
  | .driverEntry object path answers =>
    withStatus (VirtualAX25.driverEntry hdr d object path answers)
  | .constructMiniport this => .ok (none, Miniport.construct d this)
  | .destroyMiniport this => noStatus (Miniport.destructor d this)
  | .registerWithNdis this object path answers =>
    withStatus (Miniport.registerWithNdis hdr d this object path answers)
  | .miniportInitializeEx this parameters answers =>
    withStatus (Miniport.miniportInitializeEx hdr d this parameters answers)
  | .callback c => c.call hdr d

/-- One step of the driver : an entry runs, and its return is logged. -/
def step (d : Driver) (op : Op) : Except Fault Driver :=
  (op.call hdr d).map fun r => r.2.record (.returned op r.1)

/-! ## What the outside keeps to -/

/-- The allocator returns null or a block disjoint from every live one. -/
def AdapterBlock.Fresh (block : AdapterBlock) : Prop :=
  ¬d.adapters.Live block.address

/-- The pool returns null or a block disjoint from every live `Miniport`. -/
def PoolAnswer.Fresh : PoolAnswer → Prop
  | .returned address => ¬d.miniports.Live address
  | .raised _ => True

/-- The arguments of a callback are null or valid, and the allocator's answer is fresh. -/
def Callback.Valid : Callback → Prop
  | .initializeEx _ context _ answers =>
    (context = nullptr ∨ d.miniports.Live context) ∧ answers.block.Fresh d
  | .haltEx context _ => context = nullptr ∨ d.adapters.Live context
  | .driverUnload _ => True
  | .pause context _ => context = nullptr ∨ d.adapters.Live context
  | .restart context _ => context = nullptr ∨ d.adapters.Live context
  | .oidRequest context _ => context = nullptr ∨ d.adapters.Live context
  | .sendNetBufferLists context _ _ _ => context = nullptr ∨ d.adapters.Live context
  | .returnNetBufferLists context _ _ => context = nullptr ∨ d.adapters.Live context

/-- Objects are constructed in fresh memory, and members are called on live objects with
valid parameters. -/
def Op.Valid (d : Driver) : Op → Prop
  | .driverEntry _ _ answers => answers.pool.Fresh d
  | .constructMiniport this => this ≠ nullptr ∧ ¬d.miniports.Live this
  | .destroyMiniport this => d.miniports.Live this
  | .registerWithNdis this _ _ _ => d.miniports.Live this
  | .miniportInitializeEx this parameters answers =>
    d.miniports.Live this ∧ parameters.isSome ∧ answers.block.Fresh d
  | .callback c => c.Valid d

/-! ### Validity can be computed -/

instance (block : AdapterBlock) : Decidable (block.Fresh d) :=
  inferInstanceAs (Decidable ¬_)

instance : (answer : PoolAnswer) → Decidable (answer.Fresh d)
  | .returned _ => inferInstanceAs (Decidable ¬_)
  | .raised _ => isTrue trivial

instance : (c : Callback) → Decidable (c.Valid d)
  | .initializeEx .. => inferInstanceAs (Decidable (_ ∧ _))
  | .driverUnload _ => isTrue trivial
  | .haltEx .. | .pause .. | .restart .. | .oidRequest .. | .sendNetBufferLists ..
  | .returnNetBufferLists .. => inferInstanceAs (Decidable (_ ∨ _))

instance : (op : Op) → Decidable (op.Valid d)
  | .driverEntry _ _ answers => inferInstanceAs (Decidable (answers.pool.Fresh d))
  | .constructMiniport _ => inferInstanceAs (Decidable (_ ∧ _))
  | .destroyMiniport _ => inferInstanceAs (Decidable (d.miniports.Live _))
  | .registerWithNdis .. => inferInstanceAs (Decidable (d.miniports.Live _))
  | .miniportInitializeEx .. => inferInstanceAs (Decidable (_ ∧ _))
  | .callback c => inferInstanceAs (Decidable (c.Valid d))

/-! ## Sample entries -/

/-- The pool has memory at `0x1000`, and NDIS registers the driver. -/
def loadAnswers : EntryAnswers where
  pool := .returned 0x1000
  register := { status := ndisStatusSuccess, handle := 0x2000 }

/-- A load of the driver that succeeds. -/
def load : Op :=
  .driverEntry 0x100 0x200 loadAnswers

/-- An initialisation that succeeds, in a block of zero bytes at `address`. -/
def bringUp (ifIndex : NetIfIndex) (address : Pointer) : Op :=
  .miniportInitializeEx 0x1000 (some { ifIndex := ifIndex })
    { block := { address := address, contents := AX25Adapter.zeroBlock }
      registration := ndisStatusSuccess
      general := ndisStatusSuccess }

/-- A halt of the adapter at `address`. -/
def halt (address : Pointer) : Op :=
  .callback (.haltEx address 0)

end VirtualAX25
