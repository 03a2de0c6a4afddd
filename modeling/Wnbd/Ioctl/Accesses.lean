import Wnbd.Ioctl.Commands

/-!
# Accesses of the shared parts

`Permitted` is the bound every access has to meet.  The lemmas here say it of the
parts the commands are made of: terminated names, device lookups, option values,
the fetch loop and the response handler.
-/

set_option autoImplicit false

namespace Wnbd.Ioctl

open CLayout CLayout.Region TracedBuffer Wnbd.Scsi Wnbd.Dispatch

/-- The access stays inside the system buffer, and a field that is taken from the
command inside its input part. -/
def Permitted (irp : ServiceIrp) (access : Access) : Prop :=
  access.region.stop ≤ max irp.inputBufferLength.toNat irp.outputBufferLength.toNat ∧
    (access.kind = .take → access.region.stop ≤ irp.inputBufferLength.toNat)

variable {irp : ServiceIrp} {kind : AccessKind} {region : Region}

theorem permitted_input (inside : region.stop ≤ irp.inputBufferLength.toNat) :
    Permitted irp ⟨kind, region⟩ :=
  ⟨Nat.le_trans inside (Nat.le_max_left _ _), fun _ => inside⟩

theorem permitted_read (inside : region.stop ≤ irp.outputBufferLength.toNat) :
    Permitted irp ⟨.read, region⟩ :=
  ⟨Nat.le_trans inside (Nat.le_max_right _ _), fun isTake => by cases isTake⟩

theorem permitted_write (inside : region.stop ≤ irp.outputBufferLength.toNat) :
    Permitted irp ⟨.write, region⟩ :=
  ⟨Nat.le_trans inside (Nat.le_max_right _ _), fun isTake => by cases isTake⟩

theorem size_le_input {size : Nat} (long : ¬ checkILocation irp size = true) :
    size ≤ irp.inputBufferLength.toNat := by
  simpa [checkILocation] using long

theorem size_le_output {size : Nat} (long : ¬ checkOLocation irp size = true) :
    size ≤ irp.outputBufferLength.toNat := by
  simpa [checkOLocation] using long

theorem stop_le {inner outer : Region} {bound : Nat} (inside : Inside inner outer)
    (ends : outer.stop ≤ bound) : inner.stop ≤ bound := Nat.le_trans inside.2 ends

/-! ## Names -/

/-- The unit at this index of the array at the offset is a terminator. -/
def Terminated (width offset index : Nat) (memory : Memory) : Prop :=
  natAt memory ⟨offset + index * width, width⟩ = 0

theorem terminated_store {width offset index : Nat} {memory : Memory} {written : Region}
    {bytes : Nat → UInt8} (terminated : Terminated width offset index memory)
    (disjoint : offset + (index + 1) * width ≤ written.offset) :
    Terminated width offset index (store memory written bytes) := by
  have unchanged := natAt_store_of_disjoint memory ⟨offset + index * width, width⟩ written bytes
    (Or.inl (by rw [Nat.add_mul, Nat.one_mul] at disjoint; simp only [Region.stop]; omega))
  exact unchanged.trans terminated

theorem string_permitted {offset width index : Nat}
    (ends : offset + (index + 1) * width ≤ irp.inputBufferLength.toNat) (length : Nat)
    (short : length ≤ (index + 1) * width) : Permitted irp ⟨.take, ⟨offset, length⟩⟩ :=
  permitted_input (by simp only [Region.stop]; omega)

theorem terminateName_triple (name : Region) (nonempty : 0 < name.length)
    (inside : name.stop ≤ irp.inputBufferLength.toNat) {pre : Memory → Prop} :
    Triple (Permitted irp) pre (terminateName name) fun _ =>
      Terminated byte.size name.offset (name.length - 1) := by
  have ends : name.offset + (name.length - 1 + 1) * byte.size ≤ irp.inputBufferLength.toNat := by
    simp only [Region.stop] at inside
    simp only [byte, scalar]
    omega
  refine Triple.bind (fun _ => Terminated byte.size name.offset (name.length - 1)) ?_ ?_
  · refine Triple.storeNat (permitted_input ?_) fun memory _ => ?_
    · simp only [lastByte, Region.stop, byte, scalar] at ends ⊢
      omega
    · have place : (⟨name.offset + (name.length - 1) * byte.size, byte.size⟩ : Region) =
          lastByte name := by
        simp [lastByte, byte, scalar]
      rw [Terminated, place, natAt_store]
      rfl
  · exact fun _ => Keeps.loadString (name.length - 1) (fun _ terminated => terminated)
      (string_permitted ends)

theorem wnbdFindDeviceByInstanceName_keeps {inv : Memory → Prop} (nameOffset index : Nat)
    (terminated : ∀ memory, inv memory → Terminated byte.size nameOffset index memory)
    (ends : nameOffset + (index + 1) * byte.size ≤ irp.inputBufferLength.toNat)
    (devices : List ListedDevice) :
    Keeps (Permitted irp) inv (wnbdFindDeviceByInstanceName nameOffset devices) := by
  induction devices with
  | nil => exact Keeps.pure _
  | cons device rest hypothesis =>
      refine Keeps.bind (Keeps.compareString index terminated (string_permitted ends)) ?_
      intro same
      exact Triple.ite (fun _ => Keeps.pure _) fun _ => hypothesis

/-! ## Option values -/

section Value

variable {value : Region} (fits : wnbdOptionValue.size ≤ value.length)

include fits

theorem valueType_inside : Inside (valueType value) value := field_inside value _ 0 (by decide) fits

theorem valueData_inside : Inside (valueData value) value := field_inside value _ 1 (by decide) fits

theorem dataPrefix_inside (length : Nat) (short : length ≤ sizeAt wnbdOptionValueFields 1) :
    Inside ⟨(valueData value).offset, length⟩ value := by
  have shorter : Inside ⟨(valueData value).offset, length⟩ (valueData value) :=
    ⟨Nat.le_refl _, Nat.add_le_add_left short _⟩
  exact shorter.trans (valueData_inside fits)

theorem valueLastWchar_inside : Inside (valueLastWchar value) value := by
  refine Inside.trans (element_inside (valueData value) wchar (wnbdMaxNameLength - 1) ?_)
    (valueData_inside fits)
  change (wnbdMaxNameLength - 1 + 1) * wchar.size ≤ sizeAt wnbdOptionValueFields 1
  decide

end Value

theorem wnbdOptRegSize_le (type : WnbdOptValType) :
    wnbdOptRegSize type ≤ sizeAt wnbdOptionValueFields 1 := by
  cases type <;> decide

/-! ## Reading options -/

section GetOption

variable {value : Region} (fits : wnbdOptionValue.size ≤ value.length)
  (ends : value.stop ≤ irp.outputBufferLength.toNat)

include fits ends

theorem storeTyped_keeps (length : Nat) (short : length ≤ sizeAt wnbdOptionValueFields 1)
    (bytes : Nat → UInt8) (code : Nat) :
    Keeps (Permitted irp) (fun _ => True) (do
      storeBytes ⟨(valueData value).offset, length⟩ bytes
      storeNat (valueType value) code
      pure statusSuccess) := by
  refine Keeps.bind (Keeps.storeBytes ?_ fun _ _ => trivial) fun _ =>
    Keeps.bind (Keeps.storeNat ?_ fun _ _ => trivial) fun _ => Keeps.pure _
  · exact permitted_write (stop_le (dataPrefix_inside fits length short) ends)
  · exact permitted_write (stop_le (valueType_inside fits) ends)

theorem wnbdStorePersistentOpt_keeps (option : WnbdOption) (found : RegistryValue) :
    Keeps (Permitted irp) (fun _ => True) (wnbdStorePersistentOpt option found value) := by
  unfold wnbdStorePersistentOpt
  refine Triple.ite (fun _ => Keeps.pure _) fun _ => ?_
  cases option.type with
  | bool =>
      dsimp only
      split
      · exact Keeps.pure _
      · exact storeTyped_keeps fits ends _ (by decide) _ _
  | int64 =>
      dsimp only
      split
      · exact Keeps.pure _
      · exact storeTyped_keeps fits ends _ (by decide) _ _
  | wstr =>
      refine Triple.ite (fun _ => Keeps.pure _) fun short => ?_
      refine storeTyped_keeps fits ends _ ?_ _ _
      exact Nat.le_trans (Nat.not_lt.mp short) (by decide)
  | unknown => exact Keeps.pure _

theorem wnbdGetPersistentOpt_keeps (store : OptionStore) (faults : OptionFaults)
    (name : List Nat) :
    Keeps (Permitted irp) (fun _ => True) (wnbdGetPersistentOpt store faults name value) := by
  unfold wnbdGetPersistentOpt
  split
  · exact Keeps.pure _
  · refine Keeps.bind (Keeps.zeroMemory ?_ fun _ _ => trivial) fun _ => ?_
    · exact permitted_write (stop_le (valueData_inside fits) ends)
    · split
      · exact Keeps.pure _
      · exact wnbdStorePersistentOpt_keeps fits ends _ _

theorem wnbdGetDrvOpt_keeps (store : OptionStore) (faults : OptionFaults) (name : List Nat)
    (persistent : Bool) :
    Keeps (Permitted irp) (fun _ => True)
      (wnbdGetDrvOpt store faults name value persistent) := by
  unfold wnbdGetDrvOpt
  refine Triple.ite (fun _ => wnbdGetPersistentOpt_keeps fits ends _ _ _) fun _ => ?_
  split
  · exact Keeps.pure _
  · exact Keeps.bind (Keeps.storeBytes (permitted_write ends) fun _ _ => trivial)
      fun _ => Keeps.pure _

end GetOption

/-! ## Setting options -/

section SetOption

variable {inv : Memory → Prop} {offset index : Nat}
  (terminated : ∀ memory, inv memory → Terminated wchar.size offset index memory)
  (ends : offset + (index + 1) * wchar.size ≤ irp.inputBufferLength.toNat)

include terminated ends

theorem wnbdFindOptAt_keeps (options : List WnbdOption) :
    Keeps (Permitted irp) inv (wnbdFindOptAt offset options) := by
  induction options with
  | nil => exact Keeps.pure _
  | cons option rest hypothesis =>
      refine Keeps.bind (Keeps.compareString index terminated (string_permitted ends)) ?_
      intro same
      exact Triple.ite (fun _ => Keeps.pure _) fun _ => hypothesis

theorem isAnyWord_keeps (words : List String) :
    Keeps (Permitted irp) inv (isAnyWord offset words) := by
  induction words with
  | nil => exact Keeps.pure _
  | cons word rest hypothesis =>
      refine Keeps.bind (Keeps.compareString index terminated (string_permitted ends)) ?_
      intro same
      exact Triple.ite (fun _ => Keeps.pure _) fun _ => hypothesis

theorem wstrToBool_keeps : Keeps (Permitted irp) inv (wstrToBool offset) := by
  refine Keeps.bind (isAnyWord_keeps terminated ends _) fun _ => ?_
  refine Triple.ite (fun _ => Keeps.pure _) fun _ => ?_
  refine Keeps.bind (isAnyWord_keeps terminated ends _) fun _ => ?_
  exact Triple.ite (fun _ => Keeps.pure _) fun _ => Keeps.pure _

theorem loadName_keeps :
    Keeps (Permitted irp) inv (loadString .take wchar.size offset wnbdMaxNameLength) :=
  Keeps.loadString index terminated (string_permitted ends)

theorem optionNotFound_keeps (store : OptionStore) :
    Keeps (Permitted irp) inv (optionNotFound store offset) :=
  Keeps.bind (loadName_keeps terminated ends) fun _ => Keeps.pure _

theorem wnbdResetDrvOpt_keeps (store : OptionStore) (faults : OptionFaults) (persistent : Bool) :
    Keeps (Permitted irp) inv (wnbdResetDrvOpt store faults offset persistent) := by
  refine Keeps.bind (wnbdFindOptAt_keeps terminated ends _) fun found => ?_
  cases found with
  | none => exact optionNotFound_keeps terminated ends store
  | some option =>
      refine Triple.ite (fun _ => ?_) fun _ => Keeps.pure _
      refine Keeps.bind (loadName_keeps terminated ends) fun name => ?_
      exact Triple.ite (fun _ => Keeps.pure _) fun _ => Keeps.pure _

end SetOption

section SetValue

variable {value : Region} {offset index : Nat} (fits : wnbdOptionValue.size ≤ value.length)
  (nameEnds : offset + (index + 1) * wchar.size ≤ value.offset)
  (ends : value.stop ≤ irp.inputBufferLength.toNat)

include nameEnds ends in
theorem name_before_value : offset + (index + 1) * wchar.size ≤ irp.inputBufferLength.toNat :=
  Nat.le_trans nameEnds (Nat.le_trans (Nat.le_add_right _ _) ends)

include fits ends

/-- The last character of a string value is set to zero first. -/
theorem convertWstr_keeps (offset index : Nat) (option : WnbdOption) (faults : OptionFaults) :
    Keeps (Permitted irp) (fun memory => Terminated wchar.size offset index memory ∧
      Terminated wchar.size (valueData value).offset (wnbdMaxNameLength - 1) memory)
      (convertWstr option faults value) := by
  have valueEnds : (valueData value).offset + (wnbdMaxNameLength - 1 + 1) * wchar.size ≤
      irp.inputBufferLength.toNat := stop_le (valueData_inside fits) ends
  unfold convertWstr
  split
  · exact Keeps.bind (wstrToBool_keeps (fun _ both => both.2) valueEnds) fun _ => Keeps.pure _
  · exact Keeps.pure _
  · exact Keeps.pure _
  · exact Keeps.pure _

include nameEnds

theorem wnbdProcessOptionValue_keeps (option : WnbdOption) (faults : OptionFaults) :
    Keeps (Permitted irp) (Terminated wchar.size offset index)
      (wnbdProcessOptionValue option faults value) := by
  have behindName : ∀ inner, Inside inner value →
      offset + (index + 1) * wchar.size ≤ inner.offset :=
    fun inner inside => Nat.le_trans nameEnds inside.1
  refine Keeps.bind (Keeps.loadNat (permitted_input (stop_le (valueType_inside fits) ends)))
    fun type => ?_
  refine Triple.bind (fun _ memory => Terminated wchar.size offset index memory ∧
    (type = WnbdOptValType.wstr.code →
      Terminated wchar.size (valueData value).offset (wnbdMaxNameLength - 1) memory)) ?_ fun _ => ?_
  · refine Triple.ite (fun _ => ?_) fun other => Triple.pure fun memory name =>
      ⟨name, fun isWstr => absurd isWstr other⟩
    refine Triple.storeNat (permitted_input (stop_le (valueLastWchar_inside fits) ends))
      fun memory name => ⟨terminated_store name (behindName _ (valueLastWchar_inside fits)),
        fun _ => ?_⟩
    exact natAt_store memory (valueLastWchar value) 0
  · refine Triple.ite (fun _ => Triple.pure fun _ both => both.1) fun _ => ?_
    refine Triple.ite (fun _ => Triple.pure fun _ both => both.1) fun isWstr => ?_
    refine Triple.bind _ ((convertWstr_keeps fits ends offset index option faults).weaken
      (fun memory both => ⟨both.1, both.2 (not_not.mp isWstr)⟩) fun _ _ both => both)
      fun converted => ?_
    cases converted with
    | error status => exact Triple.pure fun _ both => both.1
    | ok bytes =>
        refine Triple.bind (fun _ => Terminated wchar.size offset index)
          (Triple.storeBytes (permitted_input ends) fun memory both => ?_) fun _ => Keeps.pure _
        exact terminated_store both.1 nameEnds

theorem setPersistentOpt_keeps (store : OptionStore) (faults : OptionFaults) (option : WnbdOption)
    (persistent : Bool) :
    Keeps (Permitted irp) (Terminated wchar.size offset index)
      (setPersistentOpt store faults option offset value persistent) := by
  refine Triple.ite (fun _ => ?_) fun _ => Keeps.pure _
  refine Keeps.bind (loadName_keeps (fun _ name => name) (name_before_value nameEnds ends))
    fun name => ?_
  refine Keeps.bind (Keeps.loadBytes (permitted_input (stop_le (dataPrefix_inside fits _
    (wnbdOptRegSize_le option.type)) ends))) fun bytes => ?_
  exact Triple.ite (fun _ => Keeps.pure _) fun _ => Keeps.pure _

theorem wnbdSetDrvOpt_keeps (store : OptionStore) (faults : OptionFaults) (persistent : Bool) :
    Keeps (Permitted irp) (Terminated wchar.size offset index)
      (wnbdSetDrvOpt store faults offset value persistent) := by
  have nameInside := name_before_value nameEnds ends
  refine Keeps.bind (wnbdFindOptAt_keeps (fun _ name => name) nameInside _) fun found => ?_
  cases found with
  | none => exact optionNotFound_keeps (fun _ name => name) nameInside store
  | some option =>
      refine Keeps.bind (wnbdProcessOptionValue_keeps fits nameEnds ends option faults)
        fun status => ?_
      refine Triple.ite (fun _ => Keeps.pure _) fun _ => ?_
      refine Keeps.bind (setPersistentOpt_keeps fits nameEnds ends store faults option persistent)
        fun persisted => ?_
      cases persisted with
      | error status => exact Keeps.pure _
      | ok store => exact Keeps.bind (Keeps.loadBytes (permitted_input ends)) fun _ => Keeps.pure _

end SetValue

/-! ## Fetch -/

section Fetch

variable {allowed : Access → Prop} {inv : Memory → Prop}
  (accessed : ∀ kind region, region.stop ≤ (fetchCommandField 4).stop → allowed ⟨kind, region⟩)
  (stable : ∀ memory region bytes, Inside region fetchRequest → inv memory →
    inv (store memory region bytes))

include accessed stable

theorem storeRequest_keeps (region : Region) (value : Nat) (inside : Inside region fetchRequest) :
    Keeps allowed inv (storeNat region value) :=
  Keeps.storeNat (accessed _ _ (stop_le inside (by decide))) fun memory holds =>
    stable memory region _ inside holds

theorem storeRequestBits_keeps (word : Region) (low width value : Nat)
    (inside : Inside word fetchRequest) : Keeps allowed inv (storeBits word low width value) :=
  Keeps.bind (Keeps.loadNat (accessed _ _ (stop_le inside (by decide)))) fun _ =>
    storeRequest_keeps accessed stable word _ inside

theorem storeTransfer_keeps (blockAddress : UInt64) (blockCount : UInt32) :
    Keeps allowed inv (storeTransfer blockAddress blockCount) :=
  Keeps.bind (storeRequest_keeps accessed stable _ _ (by decide)) fun _ =>
    storeRequest_keeps accessed stable _ _ (by decide)

theorem storeCmd_keeps (cmd : IoCommand) : Keeps allowed inv (storeCmd cmd) := by
  cases cmd with
  | zero => exact Keeps.pure _
  | read | write =>
      exact Keeps.bind (storeTransfer_keeps accessed stable _ _) fun _ =>
        storeRequestBits_keeps accessed stable _ _ _ _ (by decide)
  | flush => exact storeTransfer_keeps accessed stable _ _
  | unmap => exact storeRequest_keeps accessed stable _ _ (by decide)
  | persistResIn =>
      exact Keeps.bind (storeRequest_keeps accessed stable _ _ (by decide)) fun _ =>
        storeRequest_keeps accessed stable _ _ (by decide)
  | persistResOut =>
      refine Keeps.bind (storeRequest_keeps accessed stable _ _ (by decide)) fun _ => ?_
      refine Keeps.bind (storeRequestBits_keeps accessed stable _ _ _ _ (by decide)) fun _ => ?_
      refine Keeps.bind (storeRequestBits_keeps accessed stable _ _ _ _ (by decide)) fun _ => ?_
      exact storeRequest_keeps accessed stable _ _ (by decide)

omit stable in
/-- The size that was compared, where the request type needs the buffer. -/
theorem loadFetchBuffer_triple (length : Option UInt32) :
    Triple allowed inv (loadFetchBuffer length) fun size memory =>
      inv memory ∧ (length ≠ none → size = natAt memory (fetchCommandField 4)) := by
  cases length with
  | none => exact Triple.pure fun _ holds => ⟨holds, fun some => absurd rfl some⟩
  | some length =>
      refine Triple.bind _ (Triple.loadNat (accessed _ _ (Nat.le_refl _))) fun size => ?_
      refine Triple.bind (fun _ memory => inv memory ∧ size = natAt memory (fetchCommandField 4))
        ?_ fun _ => Triple.pure fun _ both => ⟨both.1, fun _ => both.2⟩
      refine Triple.ite (fun _ => ?_) fun _ => Keeps.pure _
      exact Keeps.bind (Keeps.loadNat (accessed _ _ (by decide))) fun _ => Keeps.pure _

end Fetch

/-- A request type that needs no buffer is not compared with its size. -/
theorem fetchElement_bufferSize (props : WnbdProperties) (first second : UInt32) (tag : UInt64)
    (range : ElementRange) (srb : Srb) (faults : FetchFaults)
    (same : ∀ cdb, srb.cdb = some cdb → validateScsiRequest props (some cdb) = true →
      payloadLength range (scsiOpToWnbdReqType (cdb.asByte 0)) ≠ none → first = second) :
    fetchElement props first tag range srb faults =
      fetchElement props second tag range srb faults := by
  unfold fetchElement
  simp only [Srb.setDataTransferLength_cdb]
  cases found : srb.cdb with
  | none => rfl
  | some cdb =>
      dsimp only
      split
      case isFalse => rfl
      case isTrue valid =>
        have verdict : fetchVerdict props first range faults (scsiOpToWnbdReqType (cdb.asByte 0)) =
            fetchVerdict props second range faults (scsiOpToWnbdReqType (cdb.asByte 0)) := by
          have equal := same cdb found valid
          cases kind : scsiOpToWnbdReqType (cdb.asByte 0) <;> rw [kind] at equal
          case write | unmap | persistResOut => rw [equal (fun absent => by cases absent)]
          all_goals rfl
        rw [verdict]

/-- `Command->Request` is written, `DataBufferSize` stays. -/
def SizeIs (size : Nat) (memory : Memory) : Prop := natAt memory (fetchCommandField 4) = size

theorem sizeIs_store (size : Nat) (memory : Memory) (region : Region) (bytes : Nat → UInt8)
    (inside : Inside region fetchRequest) (holds : SizeIs size memory) :
    SizeIs size (store memory region bytes) := by
  have before : fetchRequest.stop ≤ (fetchCommandField 4).offset := by decide
  exact (natAt_store_of_disjoint memory _ region bytes
    (Or.inr (Nat.le_trans inside.2 before))).trans holds

section FetchLoop

variable {allowed : Access → Prop}
  (accessed : ∀ kind region, region.stop ≤ (fetchCommandField 4).stop → allowed ⟨kind, region⟩)

include accessed

theorem fetchElementAt_triple (props : WnbdProperties) (round : FetchRound)
    (element : PendingElement) (size : Nat) :
    Triple allowed (SizeIs size) (fetchElementAt props round element) fun fetched memory =>
      SizeIs size memory ∧ fetched = fetchElement props (UInt32.ofNat size) round.tag
        element.range element.srb round.faults := by
  have stable := sizeIs_store size
  refine Keeps.bind (Keeps.zeroMemory (accessed _ _ (by decide)) fun memory holds =>
    stable memory fetchRequest _ (Inside.refl _) holds) fun _ => ?_
  cases found : element.srb.cdb with
  | none =>
      refine Triple.pure fun memory holds => ⟨holds, ?_⟩
      exact fetchElement_bufferSize props _ _ _ _ _ _ fun cdb here => by simp [found] at here
  | some cdb =>
      refine Triple.ite (fun valid => ?_) fun invalid => Triple.pure fun memory holds => ⟨holds, ?_⟩
      · refine Keeps.bind (storeRequest_keeps accessed stable _ _ (by decide)) fun _ => ?_
        refine Keeps.bind (storeRequest_keeps accessed stable _ _ (by decide)) fun _ => ?_
        refine Keeps.bind (storeCmd_keeps accessed stable _) fun _ => ?_
        refine Triple.bind _ (loadFetchBuffer_triple accessed _) fun loaded => ?_
        refine Triple.pure fun memory both => ⟨both.1, ?_⟩
        refine fetchElement_bufferSize props _ _ _ _ _ _ fun other here _ needed => ?_
        cases found.symm.trans here
        rw [both.2 needed, both.1]
      · refine fetchElement_bufferSize props _ _ _ _ _ _ fun other here valid _ => ?_
        cases found.symm.trans here
        exact absurd valid invalid

theorem dispatchExitAt_triple (hardRemove : Bool) (status : NtStatus) (request : WnbdIoRequest)
    (moved : List MovedElement) (hardRemoveAtMove : Bool) (pre : Memory → Prop) :
    Triple allowed pre (dispatchExitAt hardRemove status) fun value _ =>
      value = some (dispatchExit hardRemove status request moved hardRemoveAtMove).status := by
  unfold dispatchExit
  refine Triple.ite (fun removed => ?_) fun kept => Triple.pure fun _ _ => by rw [if_neg kept]
  refine Triple.bind (fun _ _ => True) (Triple.storeNat (accessed _ _ (by decide))
    fun _ _ => trivial) fun _ => Triple.pure fun _ _ => by rw [if_pos removed]

/-- The loop on the buffer returns what `dispatchLoop` returns. -/
theorem dispatchLoopAt_triple (props : WnbdProperties) (size : Nat) (rounds : List FetchRound)
    (hardRemove : Bool) (status : NtStatus) (request : WnbdIoRequest) :
    Triple allowed (SizeIs size) (dispatchLoopAt props rounds hardRemove status) fun value _ =>
      value = (dispatchLoop props (UInt32.ofNat size) rounds hardRemove status request).map
        (·.status) := by
  induction rounds generalizing hardRemove status request with
  | nil => exact Triple.pure fun _ _ => rfl
  | cons round rest hypothesis =>
      unfold dispatchLoopAt dispatchLoop
      dsimp only
      refine Triple.ite (fun top => ?_) fun top => ?_
      · simp only [if_pos top, Option.map_some]
        exact dispatchExitAt_triple accessed _ _ _ _ _ _
      simp only [if_neg top]
      refine Triple.ite (fun waits => ?_) fun waits => ?_
      · simp only [if_pos waits, Option.map_some]
        exact dispatchExitAt_triple accessed _ _ _ _ _ _
      simp only [if_neg waits]
      refine Triple.ite (fun check => ?_) fun check => ?_
      · simp only [if_pos check, Option.map_some]
        exact dispatchExitAt_triple accessed _ _ _ _ _ _
      simp only [if_neg check]
      cases round.popped with
      | none => exact hypothesis _ _ _
      | some element =>
          refine Triple.bind _ (fetchElementAt_triple accessed props round element size)
            fun fetched => ?_
          refine Triple.assume fun same => ?_
          rw [same]
          dsimp only
          cases (fetchElement props (UInt32.ofNat size) round.tag element.range element.srb
            round.faults).verdict with
          | invalid | lockFailed | noSrbBuffer => exact hypothesis _ _ _
          | bufferTooSmall | submit => exact dispatchExitAt_triple accessed _ _ _ _ _ _

/-- A fetch on the buffer returns what `wnbdDispatchRequest` returns for the size in
the command, whatever the request record held. -/
theorem wnbdDispatchRequestAt_triple (props : WnbdProperties) (requestorPid : UInt32)
    (rounds : List FetchRound) (size : Nat) (initial : WnbdIoRequest) :
    Triple allowed (SizeIs size) (wnbdDispatchRequestAt props requestorPid rounds) fun value _ =>
      value = (wnbdDispatchRequest props requestorPid (UInt32.ofNat size) initial rounds).map
        (·.status) := by
  unfold wnbdDispatchRequest
  refine Triple.ite (fun denied => Triple.pure fun _ _ => ?_) fun owner => ?_
  · rw [if_pos denied]
    rfl
  · rw [if_neg owner]
    exact dispatchLoopAt_triple accessed props size rounds false statusSuccess initial

end FetchLoop

/-! ## Responses -/

section Response

variable {allowed : Access → Prop} {inv : Memory → Prop}
  (accessed : ∀ region, region.stop ≤ (rspCommandField 4).stop → allowed ⟨.take, region⟩)

include accessed

theorem loadStatus_keeps (srb : Srb) : Keeps allowed inv (loadStatus srb) := by
  refine Keeps.bind (Keeps.loadNat (accessed _ (by decide))) fun _ => ?_
  refine Triple.ite (fun _ => ?_) fun _ => Keeps.pure _
  refine Keeps.bind (Keeps.loadNat (accessed _ (by decide))) fun _ => ?_
  refine Keeps.bind (Keeps.loadNat (accessed _ (by decide))) fun _ => ?_
  refine Keeps.bind (Keeps.loadNat (accessed _ (by decide))) fun _ => ?_
  refine Keeps.bind (Keeps.loadNat (accessed _ (by decide))) fun _ => ?_
  refine Keeps.bind (Triple.ite (fun _ => Keeps.loadNat (accessed _ (by decide)))
    fun _ => Keeps.pure _) fun _ => Keeps.pure _

theorem loadResponseBuffer_keeps (carriesData : Bool) :
    Keeps allowed inv (loadResponseBuffer carriesData) := by
  refine Triple.ite (fun _ => ?_) fun _ => Keeps.pure _
  refine Keeps.bind (Keeps.loadNat (accessed _ (by decide))) fun _ => ?_
  exact Keeps.bind (Keeps.loadNat (accessed _ (by decide))) fun _ => Keeps.pure _

theorem wnbdHandleResponseAt_keeps (device : ListedDevice) (requestorPid : UInt32) :
    Keeps allowed inv (wnbdHandleResponseAt device requestorPid) := by
  refine Triple.ite (fun _ => Keeps.pure _) fun _ => ?_
  refine Keeps.bind (Keeps.loadNat (accessed _ (by decide))) fun requestHandle => ?_
  cases device.submitted requestHandle with
  | none => exact Keeps.pure _
  | some element =>
      refine Triple.ite (fun _ => Keeps.pure _) fun _ => ?_
      refine Keeps.bind (Keeps.loadNat (accessed _ (by decide))) fun scsiStatus => ?_
      refine Keeps.bind (loadResponseBuffer_keeps accessed _) fun loaded => ?_
      refine Keeps.bind (Triple.ite (fun _ => Keeps.pure _) fun _ =>
        loadStatus_keeps accessed element.srb) fun status => Keeps.pure _

end Response

end Wnbd.Ioctl
