/-
# The envelope of an encrypted pledge

An encrypted pledge travels as one text: a key id behind its length, four public words, whether
the identity is encrypted, and four or five ciphertexts behind their lengths.  Digests and
signatures are over what the evaluator writes again of what it read.

Both directions check lengths on their own.  The writer has a bound on the key id that the reader
lacks, so that a pledge can be read and not be written again.

Ciphertexts are the library's.  Each error wraps one of two sentinels with a detail; a reader's
errors all wrap the same one, and are one error here.
-/

import Mordant.ThresholdNet.Fields

namespace Mordant.Evaluator

open Evm Foundation
open ThresholdNet

/-- What the FHE library offers for ciphertexts. -/
structure CiphertextLibrary (C : Type) where
  marshalBinary : C → Option Bytes
  unmarshalBinary : Bytes → Option C
  hasMetaData : C → Bool
  degree : C → ℤ
  level : C → ℤ

def pledgeMagic : Bytes := stringBytes "MLP2"
def maxKeyIDBytes : ℕ := 1024

/-- `CipherPledge`. A ciphertext may be missing. -/
structure CipherPledge (C : Type) where
  keyID : Bytes
  parameterFingerprint : Bytes32
  receivableCommitment : Bytes32
  authorizationCommitment : Bytes32
  privateMetadataCommitment : Bytes32
  policyBits : Option C
  currencyBits : Option C
  amountBits : Option C
  obligationIDBits : Option C
  receivableIDBits : Option C

namespace CipherPledge

variable {C : Type}

/-- The ciphertexts that are there, in their order. -/
def ciphertexts (p : CipherPledge C) : List C :=
  [p.policyBits, p.currencyBits, p.amountBits, p.obligationIDBits, p.receivableIDBits].reduceOption

end CipherPledge

section

variable {C : Type} (library : CiphertextLibrary C)

/-- What `validateCipherPledge` refuses in one ciphertext. -/
def malformedShape (ct : C) : Prop :=
  library.hasMetaData ct = false ∨ library.degree ct ≠ 1 ∨ library.level ct < 0

instance (ct : C) : Decidable (malformedShape library ct) := inferInstanceAs (Decidable (_ ∨ _))

def validateCipherPledge (p : CipherPledge C) : Except String Unit := do
  revertIf (p.keyID.length = 0 ∨ p.parameterFingerprint = 0 ∨ p.policyBits.isNone = true ∨
      p.currencyBits.isNone = true ∨ p.amountBits.isNone = true ∨
      p.obligationIDBits.isNone = true)
    "malformed encrypted pledge: missing ciphertext"
  revertIf (∃ ct ∈ p.ciphertexts, malformedShape library ct)
    "malformed encrypted pledge: invalid ciphertext shape"

/-- The loop over the ciphertexts of `MarshalBinary`. -/
def marshalCiphertexts : List C → Except String Bytes
  | [] => .ok []
  | ct :: rest => do
    let blob ← require "malformed encrypted pledge: ciphertext encoding" (library.marshalBinary ct)
    revertIf (maxCiphertextBytes < blob.length) "malformed encrypted pledge: ciphertext too large"
    let out ← marshalCiphertexts rest
    pure (sizedBytes blob ++ out)

/-- The fields before the ciphertexts. -/
def headerBytes (p : CipherPledge C) : Bytes :=
  pledgeMagic ++ (bigEndianBytes 2 (BitVec.ofNat 16 p.keyID.length).toNat ++ (p.keyID ++
    (wordBytes p.parameterFingerprint ++ (wordBytes p.receivableCommitment ++
    (wordBytes p.authorizationCommitment ++ (wordBytes p.privateMetadataCommitment ++
    [if p.receivableIDBits.isNone = true then 0 else 1]))))))

def CipherPledge.marshalBinary (p : CipherPledge C) : Except String Bytes := do
  validateCipherPledge library p
  revertIf (p.keyID.length = 0 ∨ maxKeyIDBytes < p.keyID.length)
    "malformed encrypted pledge: invalid key id"
  let out ← marshalCiphertexts library p.ciphertexts
  pure (headerBytes p ++ out)

def cipherPledgeDigestBytes (keccak256 : Bytes → Bytes32) (p : CipherPledge C) :
    Except String Bytes32 := do
  let encoded ← p.marshalBinary library
  pure (keccak256 encoded)

def readUint16 : Reader UInt8 (BitVec 16) :=
  .field 2 fun bytes => BitVec.ofNat 16 (bigEndianValue bytes)

/-- One ciphertext behind its length. -/
def readCiphertext : Reader UInt8 C :=
  (readSized maxCiphertextBytes).nested library.unmarshalBinary

/-- The fields of a pledge, one after another. -/
def readCipherPledge : Reader UInt8 (CipherPledge C) := do
  let magic ← .take 4
  .failIf (magic ≠ pledgeMagic)
  let keyIDLength ← readUint16
  .failIf (keyIDLength = 0)
  let keyID ← .take keyIDLength.toNat
  let parameterFingerprint ← readDigest
  let receivableCommitment ← readDigest
  let authorizationCommitment ← readDigest
  let privateMetadataCommitment ← readDigest
  let hasEncryptedID ← readByte
  .failIf (1 < hasEncryptedID)
  let cts ← (readCiphertext library).replicate (4 + hasEncryptedID.toNat)
  pure
    { keyID, parameterFingerprint, receivableCommitment, authorizationCommitment,
      privateMetadataCommitment
      policyBits := cts[0]?
      currencyBits := cts[1]?
      amountBits := cts[2]?
      obligationIDBits := cts[3]?
      receivableIDBits := cts[4]? }

def unmarshalCipherPledge (data : Bytes) : Except String (CipherPledge C) := do
  let p ← require "malformed encrypted pledge" ((readCipherPledge library).whole data)
  validateCipherPledge library p
  pure p

end

/-! ## What is read and what is written -/

/-- Each ciphertext is read as it was written and written as it was read, and nothing is read of
an empty text. -/
structure RoundTrips {C : Type} (library : CiphertextLibrary C) : Prop where
  unmarshal_marshal : ∀ ct blob, library.marshalBinary ct = some blob →
    library.unmarshalBinary blob = some ct
  marshal_unmarshal : ∀ blob ct, library.unmarshalBinary blob = some ct →
    library.marshalBinary ct = some blob
  unmarshal_nil : library.unmarshalBinary [] = none

section

variable {C : Type} {library : CiphertextLibrary C} {p : CipherPledge C} {wire data : Bytes}
  {cts : List C} {ct : C}

/-- The text of a ciphertext. -/
def ciphertextText (library : CiphertextLibrary C) (ct : C) : Bytes :=
  (library.marshalBinary ct).getD []

theorem ciphertextText_of {blob : Bytes} (h : library.marshalBinary ct = some blob) :
    ciphertextText library ct = blob := by
  rw [ciphertextText, h]
  rfl

/-- A ciphertext that has a text, which is not too long. -/
def Fits (library : CiphertextLibrary C) (ct : C) : Prop :=
  ∃ blob, library.marshalBinary ct = some blob ∧ blob.length ≤ maxCiphertextBytes

theorem RoundTrips.exactlyParses (h : RoundTrips library) :
    ExactlyParses library.unmarshalBinary (fun ct => (library.marshalBinary ct).isSome = true)
      (ciphertextText library) := by
  intro blob ct
  constructor
  · intro hread
    have hwritten := h.marshal_unmarshal blob ct hread
    exact ⟨Option.isSome_iff_exists.mpr ⟨blob, hwritten⟩, (ciphertextText_of hwritten).symm⟩
  · rintro ⟨hsome, rfl⟩
    obtain ⟨blob, hblob⟩ := Option.isSome_iff_exists.mp hsome
    rw [ciphertextText_of hblob]
    exact h.unmarshal_marshal ct blob hblob

/-- A ciphertext is read exactly where its text is not too long. -/
theorem RoundTrips.exactly_ciphertext (h : RoundTrips library) :
    Exactly (readCiphertext library) (Fits library)
      fun ct => sizedBytes (ciphertextText library ct) := by
  intro text ct rest
  have hsized : Exactly (readSized maxCiphertextBytes) _ sizedBytes := exactly_sized (by decide)
  refine (hsized.nested h.exactlyParses text ct rest).trans (and_congr_left' ?_)
  constructor
  · rintro ⟨⟨-, hmax⟩, hsome⟩
    obtain ⟨blob, hblob⟩ := Option.isSome_iff_exists.mp hsome
    rw [ciphertextText_of hblob] at hmax
    exact ⟨blob, hblob, hmax⟩
  · rintro ⟨blob, hblob, hmax⟩
    rw [ciphertextText_of hblob]
    refine ⟨⟨?_, hmax⟩, Option.isSome_iff_exists.mpr ⟨blob, hblob⟩⟩
    intro hempty
    have hread := h.unmarshal_marshal ct blob hblob
    rw [List.length_eq_zero_iff.mp hempty, h.unmarshal_nil] at hread
    exact nomatch hread

theorem marshalCiphertexts_ok_iff :
    marshalCiphertexts library cts = .ok wire ↔
      (∀ ct ∈ cts, Fits library ct) ∧
        wire = cts.flatMap fun ct => sizedBytes (ciphertextText library ct) := by
  induction cts generalizing wire with
  | nil =>
      rw [marshalCiphertexts, Except.ok.injEq, eq_comm]
      exact (and_iff_right fun ct hct => absurd hct List.not_mem_nil).symm
  | cons ct rest ih =>
      simp only [marshalCiphertexts, bind_ok_iff, require_ok_iff, revertIf_ok_iff, exists_unit,
        pure_ok_iff, ih, not_lt, List.forall_mem_cons, List.flatMap_cons]
      constructor
      · rintro ⟨blob, hblob, hmax, _, ⟨hrest, rfl⟩, rfl⟩
        refine ⟨⟨⟨blob, hblob, hmax⟩, hrest⟩, ?_⟩
        rw [ciphertextText_of hblob]
      · rintro ⟨⟨⟨blob, hblob, hmax⟩, hrest⟩, rfl⟩
        refine ⟨blob, hblob, hmax, _, ⟨hrest, rfl⟩, ?_⟩
        rw [ciphertextText_of hblob]

/-- The text of a pledge. -/
def pledgeText (library : CiphertextLibrary C) (p : CipherPledge C) : Bytes :=
  headerBytes p ++ p.ciphertexts.flatMap fun ct => sizedBytes (ciphertextText library ct)

/-- A pledge with all it needs, whose ciphertexts have texts, and whose key id has a length. -/
structure Complete (library : CiphertextLibrary C) (p : CipherPledge C) : Prop where
  keyID : p.keyID.length ≠ 0 ∧ p.keyID.length < 2 ^ 16
  policyBits : p.policyBits.isSome = true
  currencyBits : p.currencyBits.isSome = true
  amountBits : p.amountBits.isSome = true
  obligationIDBits : p.obligationIDBits.isSome = true
  fits : ∀ ct ∈ p.ciphertexts, Fits library ct

theorem zero_or_one {flag : UInt8} (hflag : ¬ 1 < flag) : flag = 0 ∨ flag = 1 := by
  have hle : flag.toNat ≤ 1 := not_lt.mp hflag
  rw [UInt8.ext_iff, UInt8.ext_iff]
  exact Nat.le_one_iff_eq_zero_or_eq_one.mp hle

/-- The ciphertexts of a pledge, where the flag says whether there is a fifth one. -/
theorem ciphertexts_of_flag {flag : UInt8} (hflag : ¬ 1 < flag)
    (hlength : cts.length = 4 + flag.toNat) (hpolicy : p.policyBits = cts[0]?)
    (hcurrency : p.currencyBits = cts[1]?) (hamount : p.amountBits = cts[2]?)
    (hobligation : p.obligationIDBits = cts[3]?) (hreceivable : p.receivableIDBits = cts[4]?) :
    p.ciphertexts = cts ∧ (if p.receivableIDBits.isNone = true then 0 else 1) = flag := by
  rw [CipherPledge.ciphertexts, hpolicy, hcurrency, hamount, hobligation, hreceivable]
  obtain rfl | rfl := zero_or_one hflag
  · obtain ⟨a, b, c, d, rfl⟩ := List.length_eq_four.mp hlength
    exact ⟨rfl, rfl⟩
  · match cts, hlength with
    | [a, b, c, d, e], _ => exact ⟨rfl, rfl⟩

theorem readUint16_iff {size : BitVec 16} {text rest : Bytes} :
    readUint16 text = some (size, rest) ↔ text = bigEndianBytes 2 size.toNat ++ rest := by
  rw [readUint16, exactly_word (by norm_num), true_and]

/-- Each ciphertext of a pledge stands in its place. -/
theorem Complete.places (hp : Complete library p) :
    p.ciphertexts.length = 4 + (if p.receivableIDBits.isNone = true then (0 : UInt8) else 1).toNat ∧
      p.policyBits = p.ciphertexts[0]? ∧ p.currencyBits = p.ciphertexts[1]? ∧
      p.amountBits = p.ciphertexts[2]? ∧ p.obligationIDBits = p.ciphertexts[3]? ∧
      p.receivableIDBits = p.ciphertexts[4]? := by
  obtain ⟨-, hpolicy, hcurrency, hamount, hobligation, -⟩ := hp
  obtain ⟨a, ha⟩ := Option.isSome_iff_exists.mp hpolicy
  obtain ⟨b, hb⟩ := Option.isSome_iff_exists.mp hcurrency
  obtain ⟨c, hc⟩ := Option.isSome_iff_exists.mp hamount
  obtain ⟨d, hd⟩ := Option.isSome_iff_exists.mp hobligation
  rw [CipherPledge.ciphertexts, ha, hb, hc, hd]
  cases p.receivableIDBits with
  | none => exact ⟨rfl, rfl, rfl, rfl, rfl, rfl⟩
  | some e => exact ⟨rfl, rfl, rfl, rfl, rfl, rfl⟩

/-- A pledge is read exactly where its text stands. -/
theorem RoundTrips.exactly_cipherPledge (h : RoundTrips library) :
    Exactly (readCipherPledge library) (Complete library) (pledgeText library) := by
  intro text p rest
  simp only [readCipherPledge, reader_bind_iff, take_iff, failIf_reader_iff, readUint16_iff,
    readDigest_iff, readByte_iff, reader_pure_iff, h.exactly_ciphertext.replicate _ _, not_not]
  constructor
  · rintro ⟨magic, _, ⟨-, rfl⟩, _, _, ⟨rfl, rfl⟩, size, _, rfl, _, _, ⟨hsize, rfl⟩, keyID, _,
      ⟨hkeyID, rfl⟩, fingerprint, _, rfl, receivable, _, rfl, authorization, _, rfl, metadata, _,
      rfl, flag, _, rfl, _, _, ⟨hflag, rfl⟩, cts, _, ⟨⟨hlength, hcts⟩, rfl⟩, rfl, rfl⟩
    obtain ⟨hciphertexts, hone⟩ := ciphertexts_of_flag hflag hlength (p := {
      keyID, parameterFingerprint := fingerprint, receivableCommitment := receivable
      authorizationCommitment := authorization, privateMetadataCommitment := metadata
      policyBits := cts[0]?, currencyBits := cts[1]?, amountBits := cts[2]?
      obligationIDBits := cts[3]?, receivableIDBits := cts[4]? }) rfl rfl rfl rfl rfl
    have hplace : ∀ i < 4, (cts[i]?).isSome = true := by
      intro i hi
      rw [Option.isSome_iff_exists]
      exact ⟨cts[i], List.getElem?_eq_getElem (by omega)⟩
    refine ⟨⟨⟨?_, ?_⟩, hplace 0 (by decide), hplace 1 (by decide), hplace 2 (by decide),
      hplace 3 (by decide), by rw [hciphertexts]; exact hcts⟩, ?_⟩
    · show keyID.length ≠ 0
      rw [hkeyID]
      exact fun hzero => hsize (BitVec.eq_of_toNat_eq hzero)
    · show keyID.length < 2 ^ 16
      rw [hkeyID]
      exact size.isLt
    · have hlengthField : BitVec.ofNat 16 keyID.length = size := by
        rw [hkeyID, BitVec.ofNat_toNat, BitVec.setWidth_eq]
      rw [pledgeText, headerBytes, hciphertexts, hone, hlengthField]
      simp only [List.append_assoc, List.cons_append, List.nil_append]
  · rintro ⟨hp, rfl⟩
    obtain ⟨hlength, hpolicy, hcurrency, hamount, hobligation, hreceivable⟩ := hp.places
    have hsize : (BitVec.ofNat 16 p.keyID.length).toNat = p.keyID.length := by
      rw [BitVec.toNat_ofNat, Nat.mod_eq_of_lt hp.keyID.2]
    rw [pledgeText, headerBytes]
    simp only [List.append_assoc, List.singleton_append]
    refine ⟨pledgeMagic, _, ⟨rfl, rfl⟩, (), _, ⟨rfl, rfl⟩,
      BitVec.ofNat 16 p.keyID.length, _, rfl, (), _, ⟨?_, rfl⟩, p.keyID, _,
      ⟨hsize.symm, rfl⟩, _, _, rfl, _, _, rfl, _, _, rfl, _, _, rfl, _, _, rfl, (), _, ⟨?_, rfl⟩,
      p.ciphertexts, rest, ⟨⟨hlength, hp.fits⟩, rfl⟩, ?_, rfl⟩
    · intro hzero
      rw [hzero] at hsize
      exact hp.keyID.1 hsize.symm
    · split <;> decide
    · rw [← hpolicy, ← hcurrency, ← hamount, ← hobligation, ← hreceivable]

theorem CipherPledge.marshalBinary_ok_iff :
    p.marshalBinary library = .ok wire ↔ validateCipherPledge library p = .ok () ∧
      (p.keyID.length ≠ 0 ∧ p.keyID.length ≤ maxKeyIDBytes) ∧
      (∀ ct ∈ p.ciphertexts, Fits library ct) ∧ wire = pledgeText library p := by
  simp only [CipherPledge.marshalBinary, bind_ok_iff, exists_unit, revertIf_ok_iff, pure_ok_iff,
    marshalCiphertexts_ok_iff, not_or, not_lt]
  constructor
  · rintro ⟨hvalid, hkeyID, _, ⟨hfits, rfl⟩, rfl⟩
    exact ⟨hvalid, hkeyID, hfits, rfl⟩
  · rintro ⟨hvalid, hkeyID, hfits, rfl⟩
    exact ⟨hvalid, hkeyID, _, ⟨hfits, rfl⟩, rfl⟩

theorem RoundTrips.unmarshalCipherPledge_ok_iff (h : RoundTrips library) :
    unmarshalCipherPledge library data = .ok p ↔
      (Complete library p ∧ data = pledgeText library p) ∧
        validateCipherPledge library p = .ok () := by
  simp only [unmarshalCipherPledge, bind_ok_iff, exists_unit, require_ok_iff, pure_ok_iff,
    h.exactly_cipherPledge.whole _ _]
  constructor
  · rintro ⟨_, hread, hvalid, rfl⟩
    exact ⟨hread, hvalid⟩
  · rintro ⟨hread, hvalid⟩
    exact ⟨p, hread, hvalid, rfl⟩

/-- What passes the checks and has a text has all that a reader asks for. -/
theorem complete_of_valid (hvalid : validateCipherPledge library p = .ok ())
    (hkeyID : p.keyID.length ≠ 0 ∧ p.keyID.length ≤ maxKeyIDBytes)
    (hfits : ∀ ct ∈ p.ciphertexts, Fits library ct) : Complete library p := by
  simp only [validateCipherPledge, bind_ok_iff, exists_unit, revertIf_ok_iff, not_or,
    Bool.not_eq_true, Option.isNone_eq_false_iff] at hvalid
  obtain ⟨⟨-, -, hpolicy, hcurrency, hamount, hobligation⟩, -⟩ := hvalid
  exact ⟨⟨hkeyID.1, hkeyID.2.trans_lt (by decide)⟩, hpolicy, hcurrency, hamount, hobligation,
    hfits⟩

/-- The length of the key id that a text announces. -/
def announcedKeyIDLength (data : Bytes) : ℕ := bigEndianValue ((data.drop 4).take 2)

theorem announcedKeyIDLength_pledgeText (hkeyID : p.keyID.length < 2 ^ 16) :
    announcedKeyIDLength (pledgeText library p) = p.keyID.length := by
  rw [announcedKeyIDLength, pledgeText, headerBytes, List.append_assoc,
    List.drop_left' (by rfl), List.append_assoc, List.take_left' (length_bigEndianBytes 2 _),
    BitVec.toNat_ofNat, Nat.mod_eq_of_lt hkeyID, bigEndianValue_bytes hkeyID]

end

/-- What is written of a pledge is read back as the pledge, and no two texts are read as one
pledge.  A pledge that was read is written again, to the same bytes, and has a digest, exactly
where the text announces a key id that the writer accepts. -/
theorem cipherPledge_rewritten_iff {C : Type} {library : CiphertextLibrary C}
    (h : RoundTrips library) (keccak256 : Bytes → Bytes32) :
    (∀ p wire, p.marshalBinary library = .ok wire →
        unmarshalCipherPledge library wire = .ok p) ∧
      (∀ data p, unmarshalCipherPledge library data = .ok p →
        (p.marshalBinary library = .ok data ∧
            (∃ digest, cipherPledgeDigestBytes library keccak256 p = .ok digest) ↔
          announcedKeyIDLength data ≤ maxKeyIDBytes)) ∧
      ∀ data data' p, unmarshalCipherPledge library data = .ok p →
        unmarshalCipherPledge library data' = .ok p → data = data' := by
  refine ⟨fun p wire hwire => ?_, fun data p hdata => ?_, fun data data' p hdata hdata' => ?_⟩
  · obtain ⟨hvalid, hkeyID, hfits, rfl⟩ := CipherPledge.marshalBinary_ok_iff.mp hwire
    exact h.unmarshalCipherPledge_ok_iff.mpr ⟨⟨complete_of_valid hvalid hkeyID hfits, rfl⟩, hvalid⟩
  · obtain ⟨⟨hp, rfl⟩, hvalid⟩ := h.unmarshalCipherPledge_ok_iff.mp hdata
    rw [announcedKeyIDLength_pledgeText hp.keyID.2]
    constructor
    · rintro ⟨hwire, -⟩
      exact (CipherPledge.marshalBinary_ok_iff.mp hwire).2.1.2
    · intro hkeyID
      have hwire := CipherPledge.marshalBinary_ok_iff.mpr
        ⟨hvalid, ⟨hp.keyID.1, hkeyID⟩, hp.fits, rfl⟩
      refine ⟨hwire, keccak256 (pledgeText library p), ?_⟩
      rw [cipherPledgeDigestBytes, hwire]
      rfl
  · obtain ⟨⟨-, rfl⟩, -⟩ := h.unmarshalCipherPledge_ok_iff.mp hdata
    obtain ⟨⟨-, rfl⟩, -⟩ := h.unmarshalCipherPledge_ok_iff.mp hdata'
    rfl

section

/-- Ciphertexts that are their own texts. -/
def plainLibrary : CiphertextLibrary Bytes where
  marshalBinary ct := if ct = [] then none else some ct
  unmarshalBinary text := if text = [] then none else some text
  hasMetaData _ := true
  degree _ := 1
  level _ := 11

theorem plainLibrary_roundTrips : RoundTrips plainLibrary where
  unmarshal_marshal ct blob h := by
    obtain ⟨hct, heq⟩ := Option.ite_none_left_eq_some.mp h
    obtain rfl := Option.some_inj.mp heq
    exact if_neg hct
  marshal_unmarshal blob ct h := by
    obtain ⟨hblob, heq⟩ := Option.ite_none_left_eq_some.mp h
    obtain rfl := Option.some_inj.mp heq
    exact if_neg hblob
  unmarshal_nil := rfl

/-- A pledge with a key id of this length. -/
def pledgeWithKeyID (length : ℕ) : CipherPledge Bytes where
  keyID := List.replicate length 107
  parameterFingerprint := 1
  receivableCommitment := 0
  authorizationCommitment := 2
  privateMetadataCommitment := 3
  policyBits := some [1]
  currencyBits := some [2]
  amountBits := some [3]
  obligationIDBits := some [4]
  receivableIDBits := some [5]

theorem complete_pledgeWithKeyID (length : ℕ) (hzero : length ≠ 0) (hmax : length < 2 ^ 16) :
    Complete plainLibrary (pledgeWithKeyID length) := by
  have hlength : (pledgeWithKeyID length).keyID.length = length := List.length_replicate
  refine ⟨by rw [hlength]; exact ⟨hzero, hmax⟩, rfl, rfl, rfl, rfl, ?_⟩
  intro ct hct
  have hall : ∀ ct ∈ [[1], [2], [3], [4], ([5] : Bytes)], Fits plainLibrary ct := by
    simp only [List.forall_mem_cons, List.not_mem_nil, false_imp_iff, implies_true, and_true]
    exact ⟨⟨_, rfl, by decide⟩, ⟨_, rfl, by decide⟩, ⟨_, rfl, by decide⟩, ⟨_, rfl, by decide⟩,
      ⟨_, rfl, by decide⟩⟩
  exact hall ct hct

theorem unmarshal_pledgeWithKeyID (length : ℕ) (hzero : length ≠ 0) (hmax : length < 2 ^ 16)
    (hvalid : validateCipherPledge plainLibrary (pledgeWithKeyID length) = .ok ()) :
    unmarshalCipherPledge plainLibrary (pledgeText plainLibrary (pledgeWithKeyID length)) =
      .ok (pledgeWithKeyID length) :=
  plainLibrary_roundTrips.unmarshalCipherPledge_ok_iff.mpr
    ⟨⟨complete_pledgeWithKeyID length hzero hmax, rfl⟩, hvalid⟩

/-- A pledge with a key id of five bytes is read, written again and has a digest. -/
theorem cipherPledge_rewritten_iff_sample :
    (pledgeWithKeyID 5).marshalBinary plainLibrary =
      .ok (pledgeText plainLibrary (pledgeWithKeyID 5)) := by
  have hread := unmarshal_pledgeWithKeyID 5 (by decide) (by decide) (by decide +kernel)
  have hrewritten := (cipherPledge_rewritten_iff plainLibrary_roundTrips fun _ => 0).2.1 _ _ hread
  exact (hrewritten.mpr (by decide +kernel)).1

/-- A pledge with a key id of 1025 bytes is read and cannot be written again. -/
theorem longKeyID_not_rewritten :
    ∃ data p, unmarshalCipherPledge plainLibrary data = .ok p ∧
      ∀ wire, p.marshalBinary plainLibrary ≠ .ok wire := by
  refine ⟨_, _, unmarshal_pledgeWithKeyID 1025 (by decide) (by decide) (by decide +kernel),
    fun wire hwire => ?_⟩
  exact absurd (CipherPledge.marshalBinary_ok_iff.mp hwire).2.1.2 (by decide +kernel)

end

end Mordant.Evaluator
