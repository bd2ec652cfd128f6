import PascalWorkspace.Proofs.Except
import PascalWorkspace.Xml.Document

/-! The encodings that a document may name for itself. A name that is not supported makes reading
fail in a way of its own; everything else that is wrong makes the document one that is not well
formed. -/
namespace PascalWorkspace.Xml

variable {α β : Type} {bytes : List UInt8} {name : String} {e : XmlError} {bigEndian : Bool}

/-- The names of encodings that the parser knows by itself. -/
def ownNames : List String :=
  ["UTF-8", "ISO-8859-1", "US-ASCII", "UTF-16", "UTF-16BE", "UTF-16LE"]

/-- How an encoding that is known by its tables makes reading fail, if it is not supported. -/
def unsupportedCharset? : Text.Charset → Option XmlError
  | .unknown => some .unknownEncoding
  | .multiByte => some .multiByteEncoding
  | _ => none

/-- How a name of an encoding makes reading fail, if it is not supported. -/
def unsupported? (name : String) : Option XmlError :=
  if upperName name ∈ ownNames then none else unsupportedCharset? (Text.Charset.ofName name)

/-- The encoding that the declaration at the front of a document names. -/
def declaredEncoding (bytes : List UInt8) : Option String :=
  let front := match Form.ofBytes bytes with
    | .utf16 bigEndian bytes => (decodeUtf16 bigEndian bytes).1
    | .bytes bytes => bytesAsChars bytes
  (takeDeclaration front).bind fun found => found.1.encoding

theorem ne_notWellFormed_of_unsupported (h : unsupported? name = some e) : e ≠ .notWellFormed := by
  unfold unsupported? unsupportedCharset? at h
  split at h
  · cases h
  · split at h
    · exact Option.some.inj h ▸ nofun
    · exact Option.some.inj h ▸ nofun
    · cases h

theorem decodeUtf8_eq_error (h : decodeUtf8 bytes = .error e) : e = .notWellFormed := by
  unfold decodeUtf8 at h
  split at h
  · cases h
  · exact (Except.error.inj h).symm

theorem decodeCharset_eq_error {charset : Text.Charset} (he : e ≠ .notWellFormed) :
    decodeCharset charset bytes = .error e ↔ unsupportedCharset? charset = some e := by
  unfold decodeCharset
  extract_lets decoded
  have hdecoded (char? : Nat → Option Char) : decoded char? ≠ .error e := by
    intro h
    dsimp only [decoded] at h
    split at h
    · cases h
    · exact he (Except.error.inj h).symm
  cases charset with
  | ascii => simp [unsupportedCharset?, hdecoded]
  | latin => simp [unsupportedCharset?, hdecoded]
  | paged page => simp [unsupportedCharset?, hdecoded]
  | foreign => simp [unsupportedCharset?, he.symm]
  | multiByte => simp [unsupportedCharset?]
  | unknown => simp [unsupportedCharset?]

/-- A name that the parser knows by itself makes reading fail in no way of its own. -/
theorem eq_error_iff_of_own {found : Except XmlError α} (hmem : upperName name ∈ ownNames)
    (hfound : found ≠ .error e) : found = .error e ↔ unsupported? name = some e := by
  rw [unsupported?, if_pos hmem]
  simp [hfound]

theorem unsupported_of_foreign (hmem : upperName name ∉ ownNames) :
    unsupported? name = unsupportedCharset? (Text.Charset.ofName name) :=
  if_neg hmem

theorem fault_ne (he : e ≠ .notWellFormed) :
    Except.error .notWellFormed ≠ Except.error (α := α) e :=
  fun h => he (Except.error.inj h).symm

/-- Decoding with the encoding of a name fails in a way of its own if the name is not supported. -/
theorem decodeNamed_eq_error (he : e ≠ .notWellFormed) :
    decodeNamed name bytes = .error e ↔ unsupported? name = some e := by
  have hknown {charset : Text.Charset} (hcharset : unsupportedCharset? charset = none) :
      decodeCharset charset bytes ≠ .error e := fun h => by
    rw [decodeCharset_eq_error he, hcharset] at h
    cases h
  unfold decodeNamed
  split
  · next heq =>
    exact eq_error_iff_of_own (by simp [heq, ownNames]) fun h => he (decodeUtf8_eq_error h)
  · next heq => exact eq_error_iff_of_own (by simp [heq, ownNames]) (hknown rfl)
  · next heq => exact eq_error_iff_of_own (by simp [heq, ownNames]) (hknown rfl)
  · next heq => exact eq_error_iff_of_own (by simp [heq, ownNames]) (fault_ne he)
  · next heq => exact eq_error_iff_of_own (by simp [heq, ownNames]) (fault_ne he)
  · next heq => exact eq_error_iff_of_own (by simp [heq, ownNames]) (fault_ne he)
  · next hutf8 hlatin hascii hutf16 hbig hlittle =>
    have hforeign : upperName name ∉ ownNames := by
      simp only [ownNames, List.mem_cons, List.not_mem_nil, or_false, not_or]
      exact ⟨hutf8, hlatin, hascii, hutf16, hbig, hlittle⟩
    rw [decodeCharset_eq_error he, unsupported_of_foreign hforeign]

theorem checkUnitsName_eq_error (he : e ≠ .notWellFormed) :
    checkUnitsName bigEndian name = .error e ↔ unsupported? name = some e := by
  have hfault : Except.error .notWellFormed ≠ Except.error (α := Unit) e := fault_ne he
  unfold checkUnitsName
  split
  · next heq => exact eq_error_iff_of_own (by simp [heq, ownNames]) (by simp)
  · next heq =>
    exact eq_error_iff_of_own (by simp [heq, ownNames]) (by cases bigEndian <;> simp [he.symm])
  · next heq =>
    exact eq_error_iff_of_own (by simp [heq, ownNames]) (by cases bigEndian <;> simp [he.symm])
  · next heq => exact eq_error_iff_of_own (by simp [heq, ownNames]) hfault
  · next heq => exact eq_error_iff_of_own (by simp [heq, ownNames]) hfault
  · next heq => exact eq_error_iff_of_own (by simp [heq, ownNames]) hfault
  · next hutf16 hbig hlittle hutf8 hlatin hascii =>
    have hforeign : upperName name ∉ ownNames := by
      simp only [ownNames, List.mem_cons, List.not_mem_nil, or_false, not_or]
      exact ⟨hutf8, hlatin, hascii, hutf16, hbig, hlittle⟩
    rw [unsupported_of_foreign hforeign]
    cases Text.Charset.ofName name with
    | unknown => simp [unsupportedCharset?]
    | multiByte => simp [unsupportedCharset?]
    | _ => simp [unsupportedCharset?, he.symm]

theorem checkChars_eq_error {cs : Chars} (h : checkChars cs = .error e) : e = .notWellFormed := by
  unfold checkChars at h
  split at h
  · cases h
  · exact (Except.error.inj h).symm

/-- What comes after a step may fail only as a document that is not well formed. -/
theorem bind_eq_error_of_fault {x : Except XmlError α} {f : α → Except XmlError β}
    (he : e ≠ .notWellFormed) (hf : ∀ a, f a = .error e → e = .notWellFormed) :
    x >>= f = .error e ↔ x = .error e := by
  rw [bind_eq_error_iff]
  exact or_iff_left fun ⟨a, _, h⟩ => he (hf a h)

theorem declarationOf_bind_eq_error {cs : Chars} {f : Declaration × Chars → Except XmlError β}
    (he : e ≠ .notWellFormed) : declarationOf cs >>= f = .error e ↔
      ∃ found, takeDeclaration cs = some found ∧ f found = .error e := by
  unfold declarationOf
  cases takeDeclaration cs with
  | none => simp [bind_eq_error_iff, he.symm]
  | some found => simp [bind_eq_error_iff]

theorem bind_encoding_eq_some {cs : Chars} :
    ((takeDeclaration cs).bind fun found => found.1.encoding).bind unsupported? = some e ↔
      ∃ found, takeDeclaration cs = some found ∧ found.1.encoding.bind unsupported? = some e := by
  rw [Option.bind_assoc, Option.bind_eq_some_iff]

/-- Reading the characters of a document fails in another way only for a name of an encoding. -/
theorem readSource_eq_error (he : e ≠ .notWellFormed) :
    readSource bytes = .error e ↔ (declaredEncoding bytes).bind unsupported? = some e := by
  have hreturn {declaration : Declaration} {rest : Chars}
      (h : (do return (declaration, ← checkChars rest)) = Except.error e) : e = .notWellFormed := by
    obtain h | ⟨_, _, h⟩ := bind_eq_error_iff.1 h
    · exact checkChars_eq_error h
    · cases h
  unfold readSource declaredEncoding
  cases Form.ofBytes bytes with
  | utf16 bigEndian bytes =>
    dsimp only
    rw [declarationOf_bind_eq_error he, bind_encoding_eq_some]
    refine exists_congr fun ⟨declaration, rest⟩ => and_congr_right fun _ => ?_
    have htail (h : (if (decodeUtf16 bigEndian bytes).2 = true then
        (do return (declaration, ← checkChars rest)) else .error .notWellFormed) =
          Except.error e) : e = .notWellFormed := by
      split at h
      · exact hreturn h
      · exact (Except.error.inj h).symm
    cases hencoding : declaration.encoding with
    | none =>
      refine ⟨fun h => ?_, nofun⟩
      obtain h | ⟨_, _, h⟩ := bind_eq_error_iff.1 h
      · cases h
      · exact (he (htail h)).elim
    | some name =>
      rw [Option.bind_some, ← checkUnitsName_eq_error he]
      exact bind_eq_error_of_fault he fun _ => htail
  | bytes bytes =>
    dsimp only
    rw [declarationOf_bind_eq_error he, bind_encoding_eq_some]
    refine exists_congr fun ⟨declaration, rest⟩ => and_congr_right fun _ => ?_
    have htail (cs : Chars) (h : (do
        let behind ← declarationOf cs
        return (declaration, ← checkChars behind.2)) = Except.error e) : e = .notWellFormed := by
      obtain ⟨behind, _, h⟩ := (declarationOf_bind_eq_error he).1 h
      exact hreturn h
    cases hencoding : declaration.encoding with
    | none =>
      refine ⟨fun h => ?_, nofun⟩
      obtain h | ⟨cs, _, h⟩ := bind_eq_error_iff.1 h
      · exact (he (decodeUtf8_eq_error h)).elim
      · exact (he (htail cs h)).elim
    | some name =>
      rw [Option.bind_some, ← decodeNamed_eq_error he]
      exact bind_eq_error_of_fault he htail

/-- The failures of reading a document are that it is not well formed and that the encoding that its
declaration names is not supported. -/
theorem parse_eq_error (he : e ≠ .notWellFormed) :
    parse bytes = .error e ↔ (declaredEncoding bytes).bind unsupported? = some e := by
  rw [← readSource_eq_error he]
  refine bind_eq_error_of_fault he fun ⟨declaration, cs⟩ h => ?_
  dsimp only at h
  split at h
  · cases h
  · exact (Except.error.inj h).symm

end PascalWorkspace.Xml
