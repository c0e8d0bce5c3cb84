import VirtualAX25.AdapterLife

/-!
# Stale memory in the attributes

The allocator does not clear the block an adapter is built in. `handed` is what
`SetMiniportAttributes` hands to NDIS of an adapter built over the contents `memory`
(`setMiniportAttributes_hands`). Every field of the registration attributes has a
statement in the constructor; three fields of the general attributes have none, and NDIS
gets what stood there (`handed_general`). So two runs hand over the same attributes
exactly when the old contents agree on those three fields (`handed_eq_iff`).
-/

namespace VirtualAX25

namespace AX25Adapter

variable (hdr : NdisHeaders) (this : Pointer) (driverHandle : NdisHandle)

/-- The attributes handed to NDIS of the adapter built at `this` over `memory`. -/
def handed (memory : AX25Adapter) : RegistrationAttributes × GeneralAttributes :=
  ((construct hdr this driverHandle memory).registrationAttributes,
    (construct hdr this driverHandle memory).generalAttributes)

variable {hdr this driverHandle}

/-- With both calls answered by success, `SetMiniportAttributes` hands over the
registration attributes and then the general attributes, as the constructor left them. -/
theorem setMiniportAttributes_hands {d : Driver} {memory : AX25Adapter}
    (ha : d.adapters.lookup this = some (construct hdr this driverHandle memory))
    (hh : driverHandle ≠ nullptr) :
    setMiniportAttributes d this ndisStatusSuccess ndisStatusSuccess =
      .ok (ndisStatusSuccess,
        { d with
          log :=
            .ndisMSetMiniportAttributes driverHandle
              (.general (handed hdr this driverHandle memory).2) ndisStatusSuccess ::
            .ndisMSetMiniportAttributes driverHandle
              (.registration (handed hdr this driverHandle memory).1) ndisStatusSuccess ::
            d.log }) :=
  setMiniportAttributes_of_lookup ha hh _ _

/-- The fields of the general attributes that no statement of the constructor writes. -/
structure UnwrittenFields where
  flags : UInt32
  powerManagementCapabilities : Pointer
  macAddressLength : UInt16

/-- The unwritten fields, as they stand. -/
def unwritten (memory : AX25Adapter) : UnwrittenFields where
  flags := memory.generalAttributes.flags
  powerManagementCapabilities := memory.generalAttributes.powerManagementCapabilities
  macAddressLength := memory.generalAttributes.macAddressLength

/-- No field of the registration attributes depends on the old contents. -/
theorem handed_registration (memory₁ memory₂ : AX25Adapter) :
    (handed hdr this driverHandle memory₁).1 = (handed hdr this driverHandle memory₂).1 :=
  rfl

/-- The general attributes depend on the old contents through the unwritten fields only. -/
theorem handed_general (memory₁ memory₂ : AX25Adapter) :
    (handed hdr this driverHandle memory₂).2 =
      { (handed hdr this driverHandle memory₁).2 with
        flags := (unwritten memory₂).flags
        powerManagementCapabilities := (unwritten memory₂).powerManagementCapabilities
        macAddressLength := (unwritten memory₂).macAddressLength } :=
  rfl

/-- The constructor leaves the unwritten fields as they are. -/
theorem unwritten_construct (hdr : NdisHeaders) (this : Pointer) (driverHandle : NdisHandle)
    (memory : AX25Adapter) :
    unwritten (construct hdr this driverHandle memory) = unwritten memory :=
  rfl

/-- Two runs of the constructor hand over the same attributes exactly when the old
contents of the block agree on the unwritten fields. -/
theorem handed_eq_iff (hdr : NdisHeaders) (this : Pointer) (driverHandle : NdisHandle)
    (memory₁ memory₂ : AX25Adapter) :
    handed hdr this driverHandle memory₁ = handed hdr this driverHandle memory₂ ↔
      unwritten memory₁ = unwritten memory₂ := by
  constructor
  · intro h
    have hgeneral : (construct hdr this driverHandle memory₁).generalAttributes =
        (construct hdr this driverHandle memory₂).generalAttributes := congrArg Prod.snd h
    rw [← unwritten_construct hdr this driverHandle memory₁,
      ← unwritten_construct hdr this driverHandle memory₂]
    unfold unwritten
    rw [hgeneral]
  · intro h
    have hgeneral : (handed hdr this driverHandle memory₁).2 =
        (handed hdr this driverHandle memory₂).2 := by
      rw [handed_general memory₂ memory₁, h]
      rfl
    exact Prod.ext (handed_registration memory₁ memory₂) hgeneral

/-- A block of zero bytes but for those of `macAddressLength`. -/
def staleBlock : AX25Adapter :=
  { zeroBlock with
    generalAttributes := { zeroBlock.generalAttributes with macAddressLength := 0xADDE } }

/-- Built over a clean block and over a stale one, the same adapter is described to NDIS
with a MAC address of 0 bytes and of 44510. -/
theorem handed_ne_of_stale :
    handed ndis620 0x1000 0x2000 zeroBlock ≠ handed ndis620 0x1000 0x2000 staleBlock ∧
      (handed ndis620 0x1000 0x2000 zeroBlock).2.macAddressLength = 0 ∧
      (handed ndis620 0x1000 0x2000 staleBlock).2.macAddressLength = 0xADDE := by
  refine ⟨fun h => ?_, rfl, rfl⟩
  have hlength : (0 : UInt16) = 0xADDE :=
    congrArg (fun attributes : RegistrationAttributes × GeneralAttributes =>
      attributes.2.macAddressLength) h
  exact absurd hlength (by decide)

end AX25Adapter

end VirtualAX25
