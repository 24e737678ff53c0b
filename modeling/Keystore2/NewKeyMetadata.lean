import Keystore2.Persistence

/-!
# Keystore2 — the metadata of a new key

What KeyMint hands back with a new key, `store_new_key` passes on twice: into
the Key Store, and in the `KeyMetadata` it answers with. Two conversions sit in
between. The certificate chain is split into the leaf and the rest
(`splitCertChain`, where `chain.remove(0)` runs before the second `len()`), and
the key characteristics become internal key parameters, each tagged with the
security level that enforces it (`key_characteristics_to_internal`), and from
those the authorizations of the answer (`key_parameters_to_authorizations`).

## Results

* `storeNewKey_splits_cert_chain` — the split of every chain: the leaf's
  encoding, then the encodings from the second certificate on, with no byte
  lost or repeated; the metadata carries exactly the split.
* `storeNewKey_keeps_characteristics` — the internal parameters are the
  hardware-enforced ones in order under the given level, then the
  software-enforced ones under `SOFTWARE`; `store_new_key` passes exactly that
  list to `insert_keyparameter`, finds it stored, and answers with one
  authorization for each parameter, in order.
-/

namespace Keystore2

open KeystoreSecurityLevel

variable (env : Env)

-- ---------------------------------------------------------------------------
-- The certificate chain
-- ---------------------------------------------------------------------------

/-- **The certificate chain, split.** For every chain `L` KeyMint returns, the
certificate is the encoding of `L[0]` when there is one, and the chain is the
encodings of `L[1..]` concatenated when there are at least two certificates;
together they are all of `L`'s encodings, in order. Without a chain both are
`None`. Every successful `store_new_key` answers with exactly these two. -/
theorem storeNewKey_splits_cert_chain (self : KeystoreSecurityLevel) (key : KeyDescriptor)
    (keyCharacteristics : KeyCharacteristics) (blob : Blob) :
    (∀ chain : List KmCertificate,
      (splitCertChain (some chain)).1 = chain.head?.map (·.encodedCertificate) ∧
      (splitCertChain (some chain)).2 =
        (if 2 ≤ chain.length then some ((chain.drop 1).flatMap (·.encodedCertificate)) else none) ∧
      (splitCertChain (some chain)).1.getD [] ++ (splitCertChain (some chain)).2.getD [] =
        chain.flatMap (·.encodedCertificate)) ∧
    splitCertChain none = (none, none) ∧
    ∀ kmCertChain w md w',
      (storeNewKey env self key keyCharacteristics kmCertChain blob).run w = some (.ok md, w') →
        md.certificate = (splitCertChain kmCertChain).1 ∧
        md.certificateChain = (splitCertChain kmCertChain).2 := by
  refine ⟨fun chain => ?_, rfl, fun kmCertChain w md w' h => ?_⟩
  · exact ⟨congrArg Prod.fst (splitCertChain_some chain), congrArg Prod.snd (splitCertChain_some chain),
      splitCertChain_getD_append chain⟩
  · obtain ⟨k, rfl, -⟩ := storeNewKey_ok env self key keyCharacteristics kmCertChain blob h
    exact ⟨rfl, rfl⟩

/-- An app's new key with a chain of three certificates: the leaf `[1]` is
the certificate, and `[2, 3]` and `[4]` together the chain. -/
theorem storeNewKey_splits_three_certs :
    ∃ md w', (storeNewKey (staleBlobEnv [] []) ⟨⟨1⟩⟩ ⟨Domain.app, 10001, some "k", none⟩ ⟨[], []⟩
        (some [⟨[1]⟩, ⟨[2, 3]⟩, ⟨[4]⟩]) [7]).run (World.start .empty) = some (.ok md, w') ∧
      md.certificate = some [1] ∧ md.certificateChain = some [2, 3, 4] :=
  ⟨_, _, rfl, (storeNewKey_splits_cert_chain (staleBlobEnv [] []) ⟨⟨1⟩⟩
    ⟨Domain.app, 10001, some "k", none⟩ ⟨[], []⟩ [7]).2.2 (some [⟨[1]⟩, ⟨[2, 3]⟩, ⟨[4]⟩])
      (World.start .empty) _ _ rfl⟩

-- ---------------------------------------------------------------------------
-- The key characteristics
-- ---------------------------------------------------------------------------

/-- **The key characteristics, kept.** For every `KeyCharacteristics` and
every level `s`, the internal parameters are the hardware-enforced ones,
converted, in order, under `s`, then the software-enforced ones, converted, in
order, under `SOFTWARE`, and nothing else. In every stopping run of
`store_new_key` each `insert_keyparameter` call passes exactly that list for
the service's own level; a successful one answers with the authorizations of
that list, one per parameter in order, and outside `Domain::BLOB` the store
holds the list at the new key id. -/
theorem storeNewKey_keeps_characteristics (keyCharacteristics : KeyCharacteristics) :
    (∀ (convertFromWire : KmKeyParameter → KeyParameterValue) (s : SecurityLevel),
      (keyCharacteristicsToInternal convertFromWire keyCharacteristics s).length =
          keyCharacteristics.hardwareEnforced.length + keyCharacteristics.softwareEnforced.length ∧
      (∀ i (h : i < keyCharacteristics.hardwareEnforced.length),
        (keyCharacteristicsToInternal convertFromWire keyCharacteristics s)[i]? =
          some ⟨convertFromWire keyCharacteristics.hardwareEnforced[i], s⟩) ∧
      ∀ j (h : j < keyCharacteristics.softwareEnforced.length),
        (keyCharacteristicsToInternal convertFromWire keyCharacteristics s)[
            keyCharacteristics.hardwareEnforced.length + j]? =
          some ⟨convertFromWire keyCharacteristics.softwareEnforced[j], SecurityLevel.software⟩) ∧
    ∀ self key kmCertChain blob w r w',
      (storeNewKey env self key keyCharacteristics kmCertChain blob).run w = some (r, w') →
      (∀ ev ∈ w.eventsTo w', ∀ id ps, ev.call = .db (.insertKeyparameter id ps) →
        ps = keyCharacteristicsToInternal env.convertFromWire keyCharacteristics self.securityLevel) ∧
      ∀ md, r = .ok md →
        md.authorizations = keyParametersToAuthorizations env.intoAuthorization
          (keyCharacteristicsToInternal env.convertFromWire keyCharacteristics self.securityLevel) ∧
        (∀ i : Nat, md.authorizations[i]? =
          (keyCharacteristicsToInternal env.convertFromWire keyCharacteristics
            self.securityLevel)[i]?.map env.intoAuthorization) ∧
        (key.domain ≠ Domain.blob → w'.store.keyparameter w.store.nextId =
          keyCharacteristicsToInternal env.convertFromWire keyCharacteristics self.securityLevel) := by
  refine ⟨fun convertFromWire s => ⟨length_keyCharacteristicsToInternal convertFromWire _ s,
      keyCharacteristicsToInternal_getElem?_hardware convertFromWire _ s,
      keyCharacteristicsToInternal_getElem?_software convertFromWire _ s⟩,
    fun self key kmCertChain blob w r w' h => ⟨?_, fun md hr => ?_⟩⟩
  · -- the only parameters `store_new_key` writes are the converted characteristics
    refine (?_ : Svc.OnlyCalls (fun c => ∀ id ps, c = .db (.insertKeyparameter id ps) → ps = _) _) h
    exact storeNewKey_onlyCalls env self (fun _ _ h => by cases h) (fun _ _ _ _ _ h => by cases h)
      (fun _ _ _ h => by cases h; rfl) fun _ _ _ _ _ h => by cases h
  · subst hr
    obtain ⟨k, rfl, -, hk⟩ := storeNewKey_ok env self key keyCharacteristics kmCertChain blob h
    refine ⟨rfl, fun i => List.getElem?_map _ _ _, fun hd => ?_⟩
    obtain ⟨a, ha, -, -, hst⟩ := hk hd
    rw [hst]
    exact (foldl_storePlan w.store key a ha _ _ _ blob self.securityLevel).2.2.2.2.1

/-- An app's new key with one hardware-enforced and one software-enforced
parameter: the stored parameters and the answer's authorizations keep them in
that order, the first under the service's level `1`, the second under
`SOFTWARE`. -/
theorem storeNewKey_keeps_two_groups :
    ∃ md w', (storeNewKey (staleBlobEnv [] []) ⟨⟨1⟩⟩ ⟨Domain.app, 10001, some "k", none⟩
        ⟨[⟨Tag.purpose, false, 2, 0, 0, []⟩], [⟨Tag.algorithm, false, 3, 0, 0, []⟩]⟩ none [7]).run
          (World.start .empty) = some (.ok md, w') ∧
      md.authorizations = [⟨⟨1⟩, ⟨Tag.algorithm, false, 0, 0, 0, []⟩⟩,
        ⟨SecurityLevel.software, ⟨Tag.purpose, false, 0, 0, 0, []⟩⟩] ∧
      w'.store.keyparameter 1 = [⟨⟨Tag.algorithm, []⟩, ⟨1⟩⟩, ⟨⟨Tag.purpose, []⟩, SecurityLevel.software⟩] := by
  obtain ⟨-, hrun⟩ := storeNewKey_keeps_characteristics (staleBlobEnv [] [])
    ⟨[⟨Tag.purpose, false, 2, 0, 0, []⟩], [⟨Tag.algorithm, false, 3, 0, 0, []⟩]⟩
  obtain ⟨-, hok⟩ := hrun ⟨⟨1⟩⟩ ⟨Domain.app, 10001, some "k", none⟩ none [7] (World.start .empty) _ _ rfl
  obtain ⟨hauth, -, hst⟩ := hok _ rfl
  exact ⟨_, _, rfl, hauth, hst (by decide)⟩

end Keystore2
