import Keystore2.Service

/-!
# Keystore2 — `utils.rs`

The helpers of `utils.rs` that `security_level.rs` uses: the permission check
through the caller's SELinux context, the KeyMint handle behind its mutex, and
the two conversions between KeyMint's key characteristics and the internal key
parameters.
-/

namespace Keystore2

variable (env : Env)

/-- `check_key_permission`: the Access Gate decides for the caller's SELinux
context; without one the check is a system error. -/
def checkKeyPermission (perm : KeyPerm) (key : KeyDescriptor)
    (accessVector : Option KeyPermSet) : Svc AnyhowError Unit := do
  match ← Svc.read (·.callingSid) with
  | none =>
    Svc.throw ((AnyhowError.ofError .sys).withContext
      "In check_key_permission: Cannot check permission without calling_sid.")
  | some callingSid => Svc.ofExcept (← Svc.ask env (.checkKeyPermission callingSid perm key accessVector))

/-- `Asp::get_interface`: clone the KeyMint binder under the mutex and convert
it; the conversion may fail. -/
def Asp.getInterface : Svc AnyhowError Unit := do
  Svc.ofExcept (← Svc.ask env .getInterface)

theorem checkKeyPermission_onlyCalls {P : Call → Prop} {perm : KeyPerm} {key : KeyDescriptor}
    {accessVector : Option KeyPermSet} (hP : ∀ sid, P (.checkKeyPermission sid perm key accessVector)) :
    Svc.OnlyCalls P (checkKeyPermission env perm key accessVector) := by
  intro w r w' h
  simp only [checkKeyPermission, Svc.read_bind] at h
  split at h
  · cases h; simp
  · exact Svc.onlyCalls_bind (Svc.onlyCalls_ask env (hP _)) (fun _ => Svc.onlyCalls_ofExcept P _) h

/-- The Access Gate granted `perm` on `key`, with access vector `accessVector`,
to the caller with SELinux context `callingSid`, in one of the events `l`. -/
def Granted (callingSid : Option String) (perm : KeyPerm) (key : KeyDescriptor)
    (accessVector : Option KeyPermSet) (l : List Event) : Prop :=
  ∃ sid, callingSid = some sid ∧
    (⟨.checkKeyPermission sid perm key accessVector, Except.ok ()⟩ : Event) ∈ l

theorem Granted.append_left {callingSid : Option String} {perm : KeyPerm} {key : KeyDescriptor}
    {accessVector : Option KeyPermSet} {l : List Event} (h : Granted callingSid perm key accessVector l)
    (l' : List Event) : Granted callingSid perm key accessVector (l ++ l') :=
  let ⟨sid, hs, hm⟩ := h
  ⟨sid, hs, List.mem_append_left l' hm⟩

theorem Granted.append_right {callingSid : Option String} {perm : KeyPerm} {key : KeyDescriptor}
    {accessVector : Option KeyPermSet} {l' : List Event} (h : Granted callingSid perm key accessVector l')
    (l : List Event) : Granted callingSid perm key accessVector (l ++ l') :=
  let ⟨sid, hs, hm⟩ := h
  ⟨sid, hs, List.mem_append_right l hm⟩

/-- A check that passed was granted by the Access Gate, for the caller. -/
theorem checkKeyPermission_ok {perm : KeyPerm} {key : KeyDescriptor}
    {accessVector : Option KeyPermSet} {w w' : World} {u : Unit}
    (h : (checkKeyPermission env perm key accessVector).run w = some (.ok u, w')) :
    Granted w.callingSid perm key accessVector (w.eventsTo w') := by
  simp only [checkKeyPermission, Svc.read_bind] at h
  split at h
  · cases h
  · next sid hsid =>
    simp only [Svc.run_bind, Svc.run_ask, Svc.run_ofExcept] at h
    rcases ha : (env.answer w.log.length (.checkKeyPermission sid perm key accessVector) :
      Except AnyhowError Unit) with e | ⟨⟩ <;> rw [ha] at h <;> cases h
    exact ⟨sid, hsid, by simp [ha]⟩

theorem Asp.getInterface_onlyCalls {P : Call → Prop} (hP : P .getInterface) :
    Svc.OnlyCalls P (Asp.getInterface env) :=
  Svc.onlyCalls_bind (Svc.onlyCalls_ask env hP) fun _ => Svc.onlyCalls_ofExcept P _

theorem checkKeyPermission_noEffect (perm : KeyPerm) (key : KeyDescriptor)
    (accessVector : Option KeyPermSet) :
    Svc.OnlyCalls (fun c => c.isEffect = false) (checkKeyPermission env perm key accessVector) :=
  checkKeyPermission_onlyCalls env fun _ => rfl

theorem Asp.getInterface_noEffect :
    Svc.OnlyCalls (fun c => c.isEffect = false) (Asp.getInterface env) :=
  Asp.getInterface_onlyCalls env rfl

/-- `key_characteristics_to_internal`: the hardware-enforced parameters tagged
with the service's level, then the software-enforced ones tagged `SOFTWARE`. -/
def keyCharacteristicsToInternal (convertFromWire : KmKeyParameter → KeyParameterValue)
    (keyCharacteristics : KeyCharacteristics) (hwSecurityLevel : SecurityLevel) :
    List KeyParameter :=
  keyCharacteristics.hardwareEnforced.map (fun p => ⟨convertFromWire p, hwSecurityLevel⟩) ++
    keyCharacteristics.softwareEnforced.map (fun p => ⟨convertFromWire p, SecurityLevel.software⟩)

section KeyCharacteristics

variable (convertFromWire : KmKeyParameter → KeyParameterValue)
  (keyCharacteristics : KeyCharacteristics) (hwSecurityLevel : SecurityLevel)

@[simp] theorem length_keyCharacteristicsToInternal :
    (keyCharacteristicsToInternal convertFromWire keyCharacteristics hwSecurityLevel).length =
      keyCharacteristics.hardwareEnforced.length + keyCharacteristics.softwareEnforced.length := by
  simp [keyCharacteristicsToInternal]

/-- The `i`-th hardware-enforced parameter is the `i`-th internal one, tagged
with the given level. -/
theorem keyCharacteristicsToInternal_getElem?_hardware (i : Nat)
    (h : i < keyCharacteristics.hardwareEnforced.length) :
    (keyCharacteristicsToInternal convertFromWire keyCharacteristics hwSecurityLevel)[i]? =
      some ⟨convertFromWire keyCharacteristics.hardwareEnforced[i], hwSecurityLevel⟩ := by
  simp [keyCharacteristicsToInternal, List.getElem?_append_left, h]

/-- The `j`-th software-enforced parameter follows all the hardware-enforced
ones, tagged `SOFTWARE`. -/
theorem keyCharacteristicsToInternal_getElem?_software (j : Nat)
    (h : j < keyCharacteristics.softwareEnforced.length) :
    (keyCharacteristicsToInternal convertFromWire keyCharacteristics hwSecurityLevel)[
        keyCharacteristics.hardwareEnforced.length + j]? =
      some ⟨convertFromWire keyCharacteristics.softwareEnforced[j], SecurityLevel.software⟩ := by
  rw [keyCharacteristicsToInternal, List.getElem?_append_right (by simp), List.length_map,
    Nat.add_sub_cancel_left, List.getElem?_map, List.getElem?_eq_getElem h]
  rfl

end KeyCharacteristics

/-- `key_parameters_to_authorizations`. -/
def keyParametersToAuthorizations (intoAuthorization : KeyParameter → Authorization)
    (parameters : List KeyParameter) : List Authorization :=
  parameters.map intoAuthorization

end Keystore2
