import LogosRln.Core.Ascii
import LogosRln.RegistryId

/-!
# Canonical registry ids

A stored membership is filed under the canonical text of its registry's id, so
two spellings of one registry must not have two canonical texts, nor two
registries one.  Under `logos` the case of the reference and the spelling of the
account are the only things canonicalization forgets; elsewhere it forgets the
surrounding white space alone.
-/

namespace LogosRln.RegistryId

/-! ## Segments -/

/-- The three segments of an id, as they were typed. -/
def segments (raw : String) : Option (String × String × String) :=
  match ((trim raw.toList).splitOn ':').map String.ofList with
  | [registryNamespace, reference, accountRaw] => some (registryNamespace, reference, accountRaw)
  | _ => none

/-- What `parse` checks of the segments, and what it makes of them. -/
structure Accepts (registryNamespace reference accountRaw : String) (id : CanonicalRegistryId) :
    Prop where
  namespaceLength : 3 ≤ (utf8 registryNamespace).length ∧ (utf8 registryNamespace).length ≤ 8
  namespaceBytes : (utf8 registryNamespace).all isNamespaceByte = true
  referenceLength : reference.isEmpty = false ∧ (utf8 reference).length ≤ 32
  referenceBytes : (utf8 reference).all isReferenceByte = true
  accountIs : parseAccount registryNamespace accountRaw = .ok id.account
  namespaceIs : id.registryNamespace = registryNamespace
  referenceIs : id.reference =
    if registryNamespace = "logos" then String.ofList (reference.toList.map Char.toLower)
    else reference
  canonicalIs : id.canonical = registryNamespace ++ ":" ++ id.reference ++ ":" ++ id.account

theorem parse_eq_ok_iff {raw : String} {id : CanonicalRegistryId} :
    parse raw = .ok id ↔ ∃ registryNamespace reference accountRaw,
      segments raw = some (registryNamespace, reference, accountRaw) ∧
      Accepts registryNamespace reference accountRaw id := by
  rcases hsplit : ((trim raw.toList).splitOn ':').map String.ofList with
    _ | ⟨registryNamespace, _ | ⟨reference, _ | ⟨accountRaw, _ | ⟨extra, rest⟩⟩⟩⟩
  case cons.cons.cons.nil =>
    simp only [parse, segments, hsplit]
    constructor
    · intro hparsed
      split at hparsed
      · cases hparsed
      · next hnamespace =>
          split at hparsed
          · cases hparsed
          · next hreference =>
              cases haccount : parseAccount registryNamespace accountRaw with
              | error error => simp [haccount, Except.map] at hparsed
              | ok account =>
                  rw [haccount] at hparsed
                  cases hparsed
                  refine ⟨_, _, _, rfl, ?_⟩
                  simp only [not_or, not_lt, not_not] at hnamespace hreference
                  rw [Bool.not_eq_true] at hreference
                  exact ⟨⟨hnamespace.1, hnamespace.2.1⟩, hnamespace.2.2,
                    ⟨hreference.1, hreference.2.1⟩, hreference.2.2, haccount, rfl, rfl, rfl⟩
    · rintro ⟨_, _, _, hsegments, haccepts⟩
      cases hsegments
      obtain ⟨hshort, hlong⟩ := haccepts.namespaceLength
      obtain ⟨hnonempty, hfits⟩ := haccepts.referenceLength
      rw [if_neg (by simp [hshort, hlong, haccepts.namespaceBytes]),
        if_neg (by simp [hnonempty, hfits, haccepts.referenceBytes]), haccepts.accountIs]
      have hreference := haccepts.referenceIs
      have hcanonical := haccepts.canonicalIs
      have hnamespace := haccepts.namespaceIs
      cases id
      simp_all [Except.map]
  all_goals simp [parse, segments, hsplit]

/-! ## Plain text -/

/-- Text without a separator or white space. -/
def Plain (text : List Char) : Prop :=
  ∀ c ∈ text, c ≠ ':' ∧ isWhitespace c = false

private theorem plain_facts : ∀ i : Fin 128,
    isNamespaceByte (UInt8.ofNat i) || isReferenceByte (UInt8.ofNat i) ||
        isAccountByte (UInt8.ofNat i) →
      Char.ofNat i ≠ ':' ∧ isWhitespace (Char.ofNat i) = false := by
  decide +kernel

private theorem ascii_facts : ∀ i : Fin 256,
    isNamespaceByte (UInt8.ofNat i) || isReferenceByte (UInt8.ofNat i) ||
      isAccountByte (UInt8.ofNat i) → UInt8.ofNat i < 128 := by
  decide +kernel

theorem plain_of_all {p : UInt8 → Bool}
    (hp : ∀ byte, p byte = true →
      (isNamespaceByte byte || isReferenceByte byte || isAccountByte byte) = true)
    {text : String} (hall : (utf8 text).all p = true) : Plain text.toList := by
  have hascii : ∀ byte, p byte = true → byte < 128 := by
    intro byte hbyte
    simpa using ascii_facts ⟨byte.toNat, byte.toNat_lt⟩ (by simpa using hp byte hbyte)
  intro c hc
  obtain ⟨hlt, hbyte⟩ := (Ascii.all_utf8_iff hascii text.toList).mp hall c hc
  simpa using plain_facts ⟨c.toNat, hlt⟩ (by simpa using hp _ hbyte)

private theorem hexDigit_plain : ∀ i : Fin 256, let b := UInt8.ofNat i
    hexDigit (b >>> 4) ≠ ':' ∧ isWhitespace (hexDigit (b >>> 4)) = false ∧
      hexDigit (b &&& 0xf) ≠ ':' ∧ isWhitespace (hexDigit (b &&& 0xf)) = false := by
  decide +kernel

theorem plain_bytesToHex (data : Bytes) : Plain (bytesToHex data).toList := by
  intro c hc
  rw [bytesToHex, String.toList_ofList] at hc
  obtain ⟨b, -, hc⟩ := List.mem_flatMap.mp hc
  have hplain := hexDigit_plain ⟨b.toNat, b.toNat_lt⟩
  simp only [UInt8.ofNat_toNat] at hplain
  rcases List.mem_pair.mp hc with rfl | rfl
  · exact ⟨hplain.1, hplain.2.1⟩
  · exact ⟨hplain.2.2.1, hplain.2.2.2⟩

/-- Plain segments are split apart where they were joined. -/
theorem segments_join {registryNamespace reference account : String}
    (hnamespace : Plain registryNamespace.toList) (hreference : Plain reference.toList)
    (haccount : Plain account.toList) :
    segments (registryNamespace ++ ":" ++ reference ++ ":" ++ account) =
      some (registryNamespace, reference, account) := by
  have hlist : (registryNamespace ++ ":" ++ reference ++ ":" ++ account).toList =
      registryNamespace.toList ++ ':' :: (reference.toList ++ ':' :: account.toList) := by
    simp [String.toList_append]
  have htrim : trim (registryNamespace.toList ++ ':' :: (reference.toList ++ ':' ::
      account.toList)) =
      registryNamespace.toList ++ ':' :: (reference.toList ++ ':' :: account.toList) := by
    apply trim_of_forall_not_whitespace
    intro c hc
    simp only [List.mem_append, List.mem_cons] at hc
    rcases hc with hc | rfl | hc | rfl | hc
    · exact (hnamespace c hc).2
    · decide
    · exact (hreference c hc).2
    · decide
    · exact (haccount c hc).2
  have habsent : ∀ {text : List Char}, Plain text → ':' ∉ text :=
    fun hplain hc => (hplain _ hc).1 rfl
  rw [segments, hlist, htrim, List.splitOn_append_cons_self_of_not_mem (habsent hnamespace),
    List.splitOn_append_cons_self_of_not_mem (habsent hreference),
    List.splitOn_eq_singleton (habsent haccount)]
  simp

/-! ## Accepted segments -/

section Accepted

variable {registryNamespace reference accountRaw : String} {id : CanonicalRegistryId}

private theorem toLower_facts : ∀ i : Fin 128,
    (Char.ofNat i).toLower.toNat < 128 ∧
      (Char.ofNat i).toLower.toLower = (Char.ofNat i).toLower ∧
      (isReferenceByte (UInt8.ofNat i) = true →
        isReferenceByte (UInt8.ofNat (Char.ofNat i).toLower.toNat) = true) := by
  decide +kernel

theorem isReferenceByte_lt (byte : UInt8) (hbyte : isReferenceByte byte = true) : byte < 128 := by
  simpa using ascii_facts ⟨byte.toNat, byte.toNat_lt⟩ (by simp [hbyte])

/-- A lowercased reference is a reference of the same length, and lowercase. -/
theorem lowered_reference {text : String} (hbytes : (utf8 text).all isReferenceByte = true) :
    let lowered := String.ofList (text.toList.map Char.toLower)
    (utf8 lowered).all isReferenceByte = true ∧ (utf8 lowered).length = (utf8 text).length ∧
      String.ofList (lowered.toList.map Char.toLower) = lowered := by
  have hchars := (Ascii.all_utf8_iff isReferenceByte_lt text.toList).mp hbytes
  have hfacts : ∀ c ∈ text.toList, c.toLower.toNat < 128 ∧ c.toLower.toLower = c.toLower ∧
      isReferenceByte (UInt8.ofNat c.toLower.toNat) = true := by
    intro c hc
    obtain ⟨hlt, hbyte⟩ := hchars c hc
    have hfacts := toLower_facts ⟨c.toNat, hlt⟩
    simp only [Char.ofNat_toNat] at hfacts
    exact ⟨hfacts.1, hfacts.2.1, hfacts.2.2 hbyte⟩
  have hlowered : ∀ c ∈ text.toList.map Char.toLower, c.toNat < 128 := by
    intro c hc
    obtain ⟨original, horiginal, rfl⟩ := List.mem_map.mp hc
    exact (hfacts original horiginal).1
  refine ⟨?_, ?_, ?_⟩
  · rw [utf8, String.toList_ofList, Ascii.all_utf8_iff isReferenceByte_lt]
    intro c hc
    refine ⟨hlowered c hc, ?_⟩
    obtain ⟨original, horiginal, rfl⟩ := List.mem_map.mp hc
    exact (hfacts original horiginal).2.2
  · rw [utf8, utf8, String.toList_ofList, Ascii.flatMap_utf8EncodeChar hlowered,
      Ascii.flatMap_utf8EncodeChar fun c hc => (hchars c hc).1]
    simp
  · rw [String.toList_ofList, List.map_map]
    congr 1
    apply List.map_congr_left
    intro c hc
    exact (hfacts c hc).2.1

theorem plain_account (haccepts : Accepts registryNamespace reference accountRaw id) :
    Plain id.account.toList := by
  have haccount := haccepts.accountIs
  unfold parseAccount at haccount
  split at haccount
  · split at haccount
    · rw [← Except.ok.inj haccount]
      exact plain_bytesToHex _
    · cases haccount
  · split at haccount
    · cases haccount
    · next hvalid =>
        rw [← Except.ok.inj haccount]
        simp only [not_or, not_not] at hvalid
        exact plain_of_all (fun byte hbyte => by simp [hbyte]) hvalid.2.2

/-- What canonicalization made of accepted segments is accepted as it is. -/
theorem accepts_canonical (haccepts : Accepts registryNamespace reference accountRaw id) :
    Accepts registryNamespace id.reference id.account id := by
  have haccount := haccepts.accountIs
  have hreference := haccepts.referenceIs
  by_cases hlogos : registryNamespace = "logos"
  · rw [if_pos hlogos] at hreference
    obtain ⟨hbytes, hlength, hlower⟩ := lowered_reference haccepts.referenceBytes
    rw [← hreference] at hbytes hlength hlower
    have hnonempty : id.reference.isEmpty = false := by
      have hkept := haccepts.referenceLength.1
      rw [hreference]
      simpa [String.isEmpty_iff] using hkept
    have hdecoded : parseAccount registryNamespace id.account = .ok id.account := by
      rw [parseAccount, if_pos hlogos] at haccount ⊢
      split at haccount
      · rw [← Except.ok.inj haccount]
        simp
      · cases haccount
    exact ⟨haccepts.namespaceLength, haccepts.namespaceBytes,
      ⟨hnonempty, hlength ▸ haccepts.referenceLength.2⟩, hbytes, hdecoded, haccepts.namespaceIs,
      by rw [if_pos hlogos, hlower], haccepts.canonicalIs⟩
  · rw [if_neg hlogos] at hreference
    have hkept : id.account = accountRaw := by
      rw [parseAccount, if_neg hlogos] at haccount
      split at haccount
      · cases haccount
      · exact (Except.ok.inj haccount).symm
    have hsame : Accepts registryNamespace id.reference id.account id := by
      rw [hkept, hreference]
      exact haccepts
    exact hsame

theorem plain_segments (haccepts : Accepts registryNamespace reference accountRaw id) :
    Plain registryNamespace.toList ∧ Plain id.reference.toList ∧ Plain id.account.toList :=
  ⟨plain_of_all (fun byte hbyte => by simp [hbyte]) haccepts.namespaceBytes,
    plain_of_all (fun byte hbyte => by simp [hbyte]) (accepts_canonical haccepts).referenceBytes,
    plain_account haccepts⟩

/-- The canonical text is split into the canonical segments. -/
theorem segments_canonical (haccepts : Accepts registryNamespace reference accountRaw id) :
    segments id.canonical = some (registryNamespace, id.reference, id.account) := by
  obtain ⟨hnamespace, hreference, haccount⟩ := plain_segments haccepts
  rw [haccepts.canonicalIs]
  exact segments_join hnamespace hreference haccount

end Accepted

/-- A canonical text is parsed to the id it came from. -/
theorem parse_canonical {raw : String} {id : CanonicalRegistryId} (hparsed : parse raw = .ok id) :
    parse id.canonical = .ok id := by
  obtain ⟨registryNamespace, reference, accountRaw, -, haccepts⟩ := parse_eq_ok_iff.mp hparsed
  exact parse_eq_ok_iff.mpr
    ⟨_, _, _, segments_canonical haccepts, accepts_canonical haccepts⟩

/-! ## Equal canonical texts -/

section Equal

variable {rawLeft rawRight : String} {left right : CanonicalRegistryId}

/-- Equal canonical texts have equal segments. -/
theorem canonical_eq_iff (hleft : parse rawLeft = .ok left) (hright : parse rawRight = .ok right) :
    left.canonical = right.canonical ↔ left.registryNamespace = right.registryNamespace ∧
      left.reference = right.reference ∧ left.account = right.account := by
  obtain ⟨leftNamespace, _, _, -, haccepted⟩ := parse_eq_ok_iff.mp hleft
  obtain ⟨rightNamespace, _, _, -, haccepted'⟩ := parse_eq_ok_iff.mp hright
  rw [haccepted.namespaceIs, haccepted'.namespaceIs]
  constructor
  · intro heq
    have hsegments := segments_canonical haccepted
    rw [heq, segments_canonical haccepted'] at hsegments
    simp only [Option.some.injEq, Prod.mk.injEq] at hsegments
    exact ⟨hsegments.1.symm, hsegments.2.1.symm, hsegments.2.2.symm⟩
  · rintro ⟨hnamespace, hreference, haccount⟩
    rw [haccepted.canonicalIs, haccepted'.canonicalIs, hnamespace, hreference, haccount]

/-- Under `logos` the canonical text is the same for the same reference in any
case and the same account in any spelling. -/
theorem canonical_eq_iff_logos {leftReference rightReference leftAccount rightAccount : String}
    (hleft : parse rawLeft = .ok left) (hright : parse rawRight = .ok right)
    (hleftSegments : segments rawLeft = some ("logos", leftReference, leftAccount))
    (hrightSegments : segments rawRight = some ("logos", rightReference, rightAccount)) :
    left.canonical = right.canonical ↔
      leftReference.toList.map Char.toLower = rightReference.toList.map Char.toLower ∧
      ∃ bytes, hexToBytes32 leftAccount = some bytes ∧ hexToBytes32 rightAccount = some bytes := by
  have hread : ∀ {raw reference account : String} {id : CanonicalRegistryId},
      parse raw = .ok id → segments raw = some ("logos", reference, account) →
      id.registryNamespace = "logos" ∧
        id.reference = String.ofList (reference.toList.map Char.toLower) ∧
        ∃ bytes, hexToBytes32 account = some bytes ∧ id.account = bytesToHex bytes.toList := by
    intro raw reference account id hparsed hsegments
    obtain ⟨_, _, _, hsegments', haccepts⟩ := parse_eq_ok_iff.mp hparsed
    rw [hsegments] at hsegments'
    cases hsegments'
    have haccount := haccepts.accountIs
    rw [parseAccount, if_pos rfl] at haccount
    split at haccount
    · next bytes hbytes =>
        exact ⟨haccepts.namespaceIs, by rw [haccepts.referenceIs, if_pos rfl], bytes, hbytes,
          (Except.ok.inj haccount).symm⟩
    · cases haccount
  obtain ⟨hleftNamespace, hleftReference, leftBytes, hleftBytes, hleftAccount⟩ :=
    hread hleft hleftSegments
  obtain ⟨hrightNamespace, hrightReference, rightBytes, hrightBytes, hrightAccount⟩ :=
    hread hright hrightSegments
  rw [canonical_eq_iff hleft hright, hleftNamespace, hrightNamespace, hleftReference,
    hrightReference, hleftAccount, hrightAccount, hleftBytes, hrightBytes]
  constructor
  · rintro ⟨-, hreference, haccount⟩
    have hbytes : some leftBytes = some rightBytes := by
      rw [← hexToBytes32_bytesToHex leftBytes, haccount, hexToBytes32_bytesToHex]
    exact ⟨String.ofList_inj.mp hreference, leftBytes, rfl, hbytes.symm⟩
  · rintro ⟨hreference, bytes, hleftIs, hrightIs⟩
    cases hleftIs
    cases hrightIs
    exact ⟨rfl, by rw [hreference], rfl⟩

/-- Under another namespace the canonical text is the trimmed one. -/
theorem canonical_of_foreign {raw : String} {id : CanonicalRegistryId}
    (hparsed : parse raw = .ok id) (hforeign : id.registryNamespace ≠ "logos") :
    id.canonical.toList = trim raw.toList := by
  obtain ⟨registryNamespace, reference, accountRaw, hsegments, haccepts⟩ :=
    parse_eq_ok_iff.mp hparsed
  rw [haccepts.namespaceIs] at hforeign
  have hreference := haccepts.referenceIs
  rw [if_neg hforeign] at hreference
  have haccount := haccepts.accountIs
  rw [parseAccount, if_neg hforeign] at haccount
  have hkept : id.account = accountRaw := by
    split at haccount
    · cases haccount
    · exact (Except.ok.inj haccount).symm
  unfold segments at hsegments
  split at hsegments
  · next hsplit =>
      cases hsegments
      have hsegments : (trim raw.toList).splitOn ':' =
          [registryNamespace.toList, reference.toList, accountRaw.toList] := by
        have hlists := congrArg (List.map String.toList) hsplit
        simpa [Function.comp_def] using hlists
      have hjoined := @List.intercalate_splitOn _ (trim raw.toList) _ _ ':'
      rw [hsegments] at hjoined
      rw [← hjoined, haccepts.canonicalIs, hreference, hkept]
      simp [List.intercalate, String.toList_append]
  · cases hsegments

theorem canonical_eq_iff_foreign (hleft : parse rawLeft = .ok left)
    (hright : parse rawRight = .ok right) (hleftForeign : left.registryNamespace ≠ "logos")
    (hrightForeign : right.registryNamespace ≠ "logos") :
    left.canonical = right.canonical ↔ trim rawLeft.toList = trim rawRight.toList := by
  rw [← canonical_of_foreign hleft hleftForeign, ← canonical_of_foreign hright hrightForeign,
    String.toList_inj]

end Equal

/-! ## The membership hash -/

/-- What `membershipHash` hashes. -/
def membershipPreimage (canonicalRegistryId : String) (identityCommitmentLe : Bytes32) : Bytes :=
  utf8 canonicalRegistryId ++ [0] ++ identityCommitmentLe.toList

theorem membershipPreimage_inj {leftId rightId : String} {leftCommitment rightCommitment : Bytes32}
    (heq : membershipPreimage leftId leftCommitment = membershipPreimage rightId rightCommitment) :
    leftId = rightId ∧ leftCommitment = rightCommitment := by
  obtain ⟨hid, hcommitment⟩ := List.append_inj' heq (by simp)
  exact ⟨utf8_injective (List.append_cancel_right hid), List.Vector.eq _ _ hcommitment⟩

/-! ## All ids -/

/-- An accepted id has three segments and its canonical text is parsed to the
same id; two accepted `logos` ids have one canonical text exactly when their
references agree but for case and their accounts decode to the same bytes; two
of other namespaces exactly when they are equal after trimming; and what a
membership hash covers determines the canonical id and the commitment. -/
theorem canonical_ids (sha256 : Bytes → Bytes32) :
    (∀ raw id, parse raw = .ok id → parse id.canonical = .ok id ∧
      ∃ reference accountRaw,
        segments raw = some (id.registryNamespace, reference, accountRaw)) ∧
    (∀ rawLeft rawRight left right leftReference rightReference leftAccount rightAccount,
      parse rawLeft = .ok left → parse rawRight = .ok right →
      segments rawLeft = some ("logos", leftReference, leftAccount) →
      segments rawRight = some ("logos", rightReference, rightAccount) →
      (left.canonical = right.canonical ↔
        leftReference.toList.map Char.toLower = rightReference.toList.map Char.toLower ∧
        ∃ bytes, hexToBytes32 leftAccount = some bytes ∧
          hexToBytes32 rightAccount = some bytes)) ∧
    (∀ rawLeft rawRight left right,
      parse rawLeft = .ok left → parse rawRight = .ok right →
      left.registryNamespace ≠ "logos" → right.registryNamespace ≠ "logos" →
      (left.canonical = right.canonical ↔ trim rawLeft.toList = trim rawRight.toList)) ∧
    (∀ canonical commitment, membershipHash sha256 canonical commitment =
      bytesToHex (sha256 (membershipPreimage canonical commitment)).toList) ∧
    ∀ leftId rightId leftCommitment rightCommitment,
      membershipPreimage leftId leftCommitment = membershipPreimage rightId rightCommitment →
        leftId = rightId ∧ leftCommitment = rightCommitment := by
  refine ⟨fun raw id hparsed => ?_, ?_, ?_, fun _ _ => rfl, ?_⟩
  · obtain ⟨registryNamespace, reference, accountRaw, hsegments, haccepts⟩ :=
      parse_eq_ok_iff.mp hparsed
    exact ⟨parse_canonical hparsed, reference, accountRaw, haccepts.namespaceIs ▸ hsegments⟩
  · intro rawLeft rawRight left right leftReference rightReference leftAccount rightAccount hleft
      hright hleftSegments hrightSegments
    exact canonical_eq_iff_logos hleft hright hleftSegments hrightSegments
  · intro rawLeft rawRight left right hleft hright hleftForeign hrightForeign
    exact canonical_eq_iff_foreign hleft hright hleftForeign hrightForeign
  · intro leftId rightId leftCommitment rightCommitment heq
    exact membershipPreimage_inj heq

end LogosRln.RegistryId
