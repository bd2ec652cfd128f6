import Mathlib.Data.List.TakeWhile
import Mathlib.Tactic.IntervalCases
import PascalWorkspace.CommandLine.Run
import PascalWorkspace.Proofs.Host.Keys
import PascalWorkspace.Proofs.Text.Utf8
import PascalWorkspace.Proofs.Text.Wide

/-! The ways in which a URI may write a path. Whichever of them is chosen, the path is read back. -/
namespace PascalWorkspace

namespace Uri

open Text (CodePoint ofChars)
open Text.Utf8 (encode decodeLenient_encode)

variable {b : UInt8} {bs : List UInt8} {c : Char} {cs es authority : List Char} {n : Nat}

/-- Characters that a URI may hold in a path as they are, apart from slashes: those that are not
reserved, the sub-delimiters, the colon and the at sign. -/
def isPathChar (c : Char) : Bool := isUnreserved c || "!$&'()*+,;=:@".toList.contains c

/-- A hexadecimal digit of a value, in either case. -/
def IsDigitOf (n : Nat) (c : Char) : Prop :=
  "0123456789abcdef".toList[n]? = some c ∨ "0123456789ABCDEF".toList[n]? = some c

/-- A byte is written as a percent sign and its two hexadecimal digits. -/
def Escapes (b : UInt8) (cs : List Char) : Prop :=
  ∃ high low, IsDigitOf (b.toNat / 16) high ∧ IsDigitOf (b.toNat % 16) low ∧ cs = ['%', high, low]

/-- A URI writes a path: every slash as it is, every other character as its bytes in UTF-8, each of
them escaped, or as it is where it may stand. -/
inductive Writes : List Char → List Char → Prop where
  | done : Writes [] []
  | slash {cs es : List Char} (hrest : Writes cs es) : Writes ('/' :: cs) ('/' :: es)
  | plain {c : Char} {cs es : List Char} (hc : isPathChar c = true) (hrest : Writes cs es) :
      Writes (c :: cs) (c :: es)
  | escaped {c : Char} {cs es : List Char} {escapes : List (List Char)} (hc : c ≠ '/')
      (hbytes : List.Forall₂ Escapes (String.utf8EncodeChar c) escapes) (hrest : Writes cs es) :
      Writes (c :: cs) (escapes.flatten ++ es)

/-! ### Reading escapes -/

theorem encode_cons (c : Char) (cs : List Char) :
    encode (c :: cs) = String.utf8EncodeChar c ++ encode cs := List.flatMap_cons

theorem utf8EncodeChar_of_lt (hc : c.toNat < 0x80) :
    String.utf8EncodeChar c = [UInt8.ofNat c.toNat] := by
  have hle : c.val.toNat ≤ 0x7F := Nat.le_of_lt_succ hc
  rw [String.utf8EncodeChar, if_pos hle]
  rfl

/-- A digit is one byte, of which the value is known. -/
theorem hexValue_of_isDigitOf (hn : n < 16) (h : IsDigitOf n c) :
    ∃ b, String.utf8EncodeChar c = [b] ∧ hexValue b = some (UInt8.ofNat n) := by
  obtain h | h := h <;> interval_cases n <;> obtain rfl := Option.some.inj h <;>
    exact ⟨_, rfl, by decide⟩

theorem percentDecode_escape (h : Escapes b cs) (rest : List UInt8) :
    percentDecode (encode cs ++ rest) = b :: percentDecode rest := by
  obtain ⟨high, low, hhigh, hlow, rfl⟩ := h
  have hb : b.toNat < 256 := b.toNat_lt
  obtain ⟨x, hx, hxvalue⟩ := hexValue_of_isDigitOf (by omega) hhigh
  obtain ⟨y, hy, hyvalue⟩ := hexValue_of_isDigitOf (by omega) hlow
  have hbytes : encode ['%', high, low] ++ rest = 0x25 :: x :: y :: rest := by
    rw [encode_cons, encode_cons, encode_cons, hx, hy]
    rfl
  have hvalue : UInt8.ofNat (b.toNat / 16) * 16 + UInt8.ofNat (b.toNat % 16) = b := by
    apply UInt8.toNat_inj.1
    simp only [UInt8.toNat_add, UInt8.toNat_mul, UInt8.toNat_ofNat', UInt8.toNat_ofNat]
    omega
  rw [hbytes, percentDecode]
  simp only [hxvalue, hyvalue, hvalue]

theorem percentDecode_escapes {escapes : List (List Char)} (h : List.Forall₂ Escapes bs escapes)
    (rest : List UInt8) :
    percentDecode (encode escapes.flatten ++ rest) = bs ++ percentDecode rest := by
  induction h with
  | nil => rfl
  | @cons b cs bs escapes hb _ ih =>
    rw [List.flatten_cons, encode, List.flatMap_append, List.append_assoc, ← encode,
      percentDecode_escape hb, ← encode, ih, List.cons_append]

/-- A byte that is no percent sign stands for itself. -/
theorem percentDecode_cons (hb : b ≠ 0x25) (bs : List UInt8) :
    percentDecode (b :: bs) = b :: percentDecode bs := by
  rw [percentDecode]
  rintro x y rest rfl
  exact absurd rfl hb

theorem bounds_of_isAlphanum (hc : c.isAlphanum = true) : 0x20 < c.toNat ∧ c.toNat < 0x80 := by
  have hkinds : (c.isUpper = true ∨ c.isLower = true) ∨ c.isDigit = true :=
    (Bool.or_eq_true_iff.1 hc).imp_left Bool.or_eq_true_iff.1
  have hranges : ((65 ≤ c.toNat ∧ c.toNat ≤ 90) ∨ 97 ≤ c.toNat ∧ c.toNat ≤ 122) ∨
      48 ≤ c.toNat ∧ c.toNat ≤ 57 :=
    hkinds.imp (Or.imp of_decide_eq_true
      fun h => (Bool.and_eq_true_iff.1 h).imp of_decide_eq_true of_decide_eq_true)
      fun h => (Bool.and_eq_true_iff.1 h).imp of_decide_eq_true of_decide_eq_true
  omega

/-- What may stand in a path is visible and belongs to ASCII. -/
theorem bounds_of_isPathChar (hc : isPathChar c = true) : 0x20 < c.toNat ∧ c.toNat < 0x80 := by
  have hkinds : c.isAlphanum = true ∨ c ∈ "-._~!$&'()*+,;=:@".toList := by
    simpa [isPathChar, isUnreserved, or_assoc] using hc
  obtain halphanum | hmark := hkinds
  · exact bounds_of_isAlphanum halphanum
  · have hall : ∀ d ∈ "-._~!$&'()*+,;=:@".toList, 0x20 < d.toNat ∧ d.toNat < 0x80 := by simp
    exact hall c hmark

/-- The bytes of a path are read back from every way to write it. -/
theorem Writes.percentDecode (h : Writes cs es) : percentDecode (encode es) = encode cs := by
  induction h with
  | done => rfl
  | slash _ ih =>
    rw [encode_cons, encode_cons, ← ih]
    exact percentDecode_cons (by decide) _
  | @plain c cs es hc _ ih =>
    obtain ⟨-, hlt⟩ := bounds_of_isPathChar hc
    have hbyte : UInt8.ofNat c.toNat ≠ 0x25 := by
      intro heq
      have hvalue : c.toNat = 0x25 := by
        rw [← UInt8.toNat_ofNat_of_lt' (by omega : c.toNat < 256), heq]
        rfl
      obtain rfl : c = '%' := Char.toNat_inj.1 hvalue
      exact absurd hc (by decide)
    rw [encode_cons, encode_cons, ← ih, utf8EncodeChar_of_lt hlt]
    exact percentDecode_cons hbyte _
  | escaped _ hbytes _ ih =>
    rw [encode, List.flatMap_append, ← encode, ← encode, percentDecode_escapes hbytes, ih,
      encode_cons]

theorem Writes.unescapeChars (h : Writes cs es) : unescapeChars es = cs := by
  rw [Uri.unescapeChars, h.percentDecode, decodeLenient_encode]

/-! ### Taking a URI apart -/

/-- A character that ends no part of a URI and is not dropped from it. -/
abbrev IsInner (c : Char) : Prop := c ≠ '\t' ∧ c ≠ '\n' ∧ c ≠ '\r' ∧ c ≠ '?' ∧ c ≠ '#'

theorem isInner_of_isPathChar (hc : isPathChar c = true) : IsInner c := by
  refine ⟨?_, ?_, ?_, ?_, ?_⟩ <;> rintro rfl <;> exact absurd hc (by decide)

theorem isInner_of_isDigitOf (hn : n < 16) (h : IsDigitOf n c) : IsInner c := by
  obtain h | h := h <;> interval_cases n <;> obtain rfl := Option.some.inj h <;>
    exact isInner_of_isPathChar (by decide)

theorem isInner_of_escapes {escapes : List (List Char)} (h : List.Forall₂ Escapes bs escapes) :
    ∀ c ∈ escapes.flatten, IsInner c := by
  induction h with
  | nil => exact List.forall_mem_nil _
  | @cons b cs bs escapes hb _ ih =>
    obtain ⟨high, low, hhigh, hlow, rfl⟩ := hb
    have hlt : b.toNat < 256 := b.toNat_lt
    have hpercent : IsInner '%' := by decide
    rw [List.flatten_cons, List.forall_mem_append]
    refine ⟨List.forall_mem_cons.2 ⟨hpercent, List.forall_mem_cons.2 ⟨?_, ?_⟩⟩, ih⟩
    · exact isInner_of_isDigitOf (by omega) hhigh
    · exact List.forall_mem_singleton.2 (isInner_of_isDigitOf (by omega) hlow)

theorem Writes.isInner (h : Writes cs es) : ∀ c ∈ es, IsInner c := by
  induction h with
  | done => exact List.forall_mem_nil _
  | slash _ ih => exact List.forall_mem_cons.2 ⟨by decide, ih⟩
  | plain hc _ ih => exact List.forall_mem_cons.2 ⟨isInner_of_isPathChar hc, ih⟩
  | escaped _ hbytes _ ih => exact List.forall_mem_append.2 ⟨isInner_of_escapes hbytes, ih⟩

/-- A slash in front is kept. -/
theorem Writes.head?_eq_slash (h : Writes cs es) (hcs : cs.head? = some '/') :
    es.head? = some '/' := by
  cases h with
  | done => cases hcs
  | slash => rfl
  | plain => exact hcs
  | escaped hc => exact absurd (Option.some.inj hcs) hc

/-- A file URI falls into its authority and its path. -/
theorem split_file (hauthority : ∀ c ∈ authority, IsInner c ∧ c ≠ '/')
    (hpath : ∀ c ∈ es, IsInner c) (hslash : es.head? = some '/') :
    split (ofChars ("file://".toList ++ (authority ++ es))) =
      ⟨"file".toList, authority, ofChars es⟩ := by
  have htext (rest : List Char) : ofChars ("file://".toList ++ rest) =
      .char 'f' :: .char 'i' :: .char 'l' :: .char 'e' :: .char ':' :: .char '/' :: .char '/' ::
        ofChars rest := rfl
  have hclean : clean (ofChars ("file://".toList ++ (authority ++ es))) =
      ofChars ("file://".toList ++ (authority ++ es)) := by
    have hinner : ∀ c ∈ "file://".toList ++ (authority ++ es), IsInner c := by
      rw [List.forall_mem_append, List.forall_mem_append]
      exact ⟨by simp [IsInner], fun c hc => (hauthority c hc).1, hpath⟩
    rw [clean, htext, List.dropWhile_cons_of_neg (by decide), ← htext, List.filter_eq_self]
    refine List.forall_mem_map.2 fun c hc => ?_
    obtain ⟨htab, hnewline, hreturn, -⟩ := hinner c hc
    simp [CodePoint.sign, htab, hnewline, hreturn]
  have hscheme (rest : List Char) : splitScheme (ofChars ("file://".toList ++ rest)) =
      ("file".toList, .char '/' :: .char '/' :: ofChars rest) := rfl
  have hends : splitAuthority (.char '/' :: .char '/' :: ofChars (authority ++ es)) =
      (authority, ofChars es) := by
    have hinside : ∀ p ∈ ofChars authority, (!endsAuthority p.sign) = true :=
      List.forall_mem_map.2 fun c hc => by
        obtain ⟨⟨-, -, -, hquery, hfragment⟩, hne⟩ := hauthority c hc
        simp [CodePoint.sign, endsAuthority, hquery, hfragment, hne]
    obtain ⟨rest, rfl⟩ := List.head?_eq_some_iff.1 hslash
    have hrest : ofChars ('/' :: rest) = .char '/' :: ofChars rest := rfl
    rw [Text.ofChars_append, splitAuthority, List.takeWhile_append_of_pos hinside,
      List.dropWhile_append_of_pos hinside, hrest, List.takeWhile_cons_of_neg (by decide),
      List.dropWhile_cons_of_neg (by decide), List.append_nil, Text.map_sign_ofChars]
  have hwhole : ((ofChars es).takeWhile fun p => p.sign ≠ '#' && p.sign ≠ '?') = ofChars es := by
    rw [List.takeWhile_eq_self_iff]
    refine List.forall_mem_map.2 fun c hc => ?_
    obtain ⟨-, -, -, hquery, hfragment⟩ := hpath c hc
    simp [CodePoint.sign, hquery, hfragment]
  rw [split, hclean, hscheme]
  dsimp only
  rw [hends, hwhole]

theorem clean_sublist (points : List CodePoint) : (clean points).Sublist points :=
  List.filter_sublist.trans (List.dropWhile_sublist _)

theorem splitScheme_sublist (points : List CodePoint) :
    (splitScheme points).2.Sublist points := by
  unfold splitScheme
  dsimp only
  split
  · exact List.Sublist.refl _
  · next colon rest hrest =>
    have hbehind : (colon :: rest).Sublist points := hrest ▸ List.dropWhile_sublist _
    split
    · exact (List.sublist_cons_self colon rest).trans hbehind
    · exact List.Sublist.refl _

theorem splitAuthority_sublist (points : List CodePoint) :
    (splitAuthority points).2.Sublist points := by
  unfold splitAuthority
  split
  · exact (List.dropWhile_sublist _).trans
      ((List.sublist_cons_self _ _).trans (List.sublist_cons_self _ _))
  · exact List.Sublist.refl _

/-- The path stands in the URI, with nothing in it that is not there. -/
theorem path_split_sublist (points : List CodePoint) : (split points).path.Sublist points :=
  (List.takeWhile_sublist _).trans <| (splitAuthority_sublist _).trans <|
    (splitScheme_sublist _).trans (clean_sublist points)

/-- A URI is refused for its form, or its path begins with a slash and is taken as a name. -/
theorem toPath_cases (uri : Text.Wide) :
    let named := Text.mapRuns unescapeChars [] (split uri.points).path
    (∃ e, toPath uri = .error e ∧ ∀ fault, e ≠ .unusable fault) ∨
      named.head?.map CodePoint.sign = some '/' ∧
        toPath uri = match Text.fileChars? [] named with
          | some cs => .ok (Path.ofString (String.ofList cs))
          | none => .error (.unusable (nameFault named)) := by
  unfold toPath
  dsimp only
  split
  · exact .inl ⟨_, rfl, nofun⟩
  · split
    · exact .inl ⟨_, rfl, nofun⟩
    · split
      · exact .inl ⟨_, rfl, nofun⟩
      · split
        · exact .inl ⟨_, rfl, nofun⟩
        · next hslash => exact .inr ⟨not_not.1 hslash, rfl⟩

/-- A path has no name only where the URI holds half of a pair for which there is no byte. -/
theorem exists_half_of_unusable {uri : Text.Wide} {fault : PathError}
    (he : toPath uri = .error (.unusable fault)) :
    ∃ half ∈ uri.points, half.isEncodable = false := by
  obtain ⟨e, hform, hne⟩ | ⟨-, hpath⟩ := toPath_cases uri
  · exact absurd (Except.error.inj (hform.symm.trans he)) (hne fault)
  · rw [hpath] at he
    split at he
    · cases he
    · next hnone =>
      obtain ⟨half, hmem, hhalf⟩ := Text.fileChars?_eq_none.1 hnone
      refine ⟨half, ?_, hhalf⟩
      cases half with
      | char c => cases hhalf
      | half n => exact (path_split_sublist _).subset (Text.half_mem_mapRuns.1 hmem)

/-- A path that a URI stands for is absolute, and read back from its text. -/
theorem ofString_of_toPath {uri : Text.Wide} {path : Path} (hok : toPath uri = .ok path) :
    path.isAbsolute = true ∧ Path.ofString path.toString = path := by
  obtain ⟨e, hform, -⟩ | ⟨hslash, hpath⟩ := toPath_cases uri
  · cases hform.symm.trans hok
  · rw [hpath] at hok
    split at hok
    · next cs hcs =>
      obtain rfl := Except.ok.inj hok
      have habsolute : cs.head? = some '/' := Text.head?_fileChars? hcs hslash
      refine ⟨?_, Path.ofString_toString fun _ hpart => Path.isPart_of_mem_ofString hpart⟩
      simpa [Path.isAbsolute, Path.ofString] using Path.anchorOfChars_ne_relative habsolute
    · cases hok

/-- Whatever stands for this machine in front of it, a written path is read back. -/
theorem toPath_of_writes {p : String} (habsolute : p.toList.head? = some '/')
    (hwrites : Writes p.toList es) (hauthority : authority = [] ∨ authority = "localhost".toList) :
    toPath (String.ofList ("file://".toList ++ (authority ++ es))) = .ok (Path.ofString p) := by
  have hsplit : split (ofChars ("file://".toList ++ (authority ++ es))) =
      ⟨"file".toList, authority, ofChars es⟩ := by
    refine split_file ?_ hwrites.isInner (hwrites.head?_eq_slash habsolute)
    obtain rfl | rfl := hauthority <;> simp [IsInner]
  have hlocal : isAuthority authority = true := by
    obtain rfl | rfl := hauthority <;> decide
  have hhead : ((ofChars p.toList).head?.map CodePoint.sign) = some '/' := by
    rw [← List.head?_map, Text.map_sign_ofChars, habsolute]
  rw [toPath, Text.Wide.points, String.toList_ofList, hsplit]
  dsimp only
  rw [hlocal, Text.mapRuns_ofChars, List.nil_append, hwrites.unescapeChars, Text.fileChars?_ofChars,
    hhead]
  obtain rfl | rfl := hauthority <;> simp

/-! ### The URI of a path -/

theorem isDigitOf_hexDigit (n : Nat) : IsDigitOf (n % 16) (Text.hexDigit n).toUpper := by
  have hn : n % 16 < 16 := Nat.mod_lt n (by decide)
  rw [Text.hexDigit]
  generalize n % 16 = k at hn
  interval_cases k <;> exact .inr (by decide)

theorem escapes_percentEncode (b : UInt8) : Escapes b (percentEncode b) := by
  have hb : b.toNat < 256 := b.toNat_lt
  have hhigh := isDigitOf_hexDigit (b.toNat / 16)
  rw [Nat.mod_eq_of_lt (by omega)] at hhigh
  exact ⟨_, _, hhigh, isDigitOf_hexDigit b.toNat, rfl⟩

theorem writes_escapeChar (c : Char) (h : Writes cs es) :
    Writes (c :: cs) (escapeChar c ++ es) := by
  by_cases hslash : c = '/'
  · subst hslash
    exact .slash h
  · cases hplain : isUnreserved c with
    | true =>
      rw [escapeChar, hplain, Bool.true_or, if_pos rfl]
      exact .plain (by rw [isPathChar, hplain, Bool.true_or]) h
    | false =>
      have hescape : (isUnreserved c || c == '/') = false := by simp [hplain, hslash]
      have hbytes : List.Forall₂ Escapes (String.utf8EncodeChar c)
          ((String.utf8EncodeChar c).map percentEncode) :=
        List.forall₂_map_right_iff.2 (List.forall₂_same.2 fun b _ => escapes_percentEncode b)
      rw [escapeChar, hescape, if_neg Bool.false_ne_true, List.flatMap_def]
      exact .escaped hslash hbytes h

theorem writes_flatMap_escapeChar (cs : List Char) : Writes cs (cs.flatMap escapeChar) := by
  induction cs with
  | nil => exact .done
  | cons c cs ih => exact writes_escapeChar c ih

/-- The URI of a canonical path stands for it. -/
theorem toPath_ofPath {p : Path} (hp : p.Spelled) : toPath (ofPath p) = .ok p := by
  have htext : ofPath p =
      String.ofList ("file://".toList ++ ([] ++ p.toString.toList.flatMap escapeChar)) := by
    rw [ofPath, String.ofList_append, String.ofList_toList, List.nil_append]
  have habsolute : p.toString.toList.head? = some '/' := by
    obtain ⟨anchor, parts⟩ := p
    have hanchor : anchor ≠ .relative := hp.absolute
    cases anchor <;> simp_all [Path.toString, Path.anchorText]
  rw [htext, toPath_of_writes habsolute (writes_flatMap_escapeChar _) (.inl rfl),
    hp.ofString_toString]

end Uri

namespace Handshake

theorem rootPath_text {uri : Text.Wide} (hne : uri ≠ "") :
    rootPath (.text uri) = (Uri.toPath uri).mapError (ofUriError uri) := by
  rw [rootPath, if_neg]
  simpa [Text.Wide.isEmpty_iff] using hne

/-- However a URI writes an absolute path, with or without the name of this machine, the root of the
request is that path. A command that is given a directory in place of a URI sends the URI of the
directory as it is resolved, and that is the root again. -/
theorem rootPath_of_writes {p e : String} (habsolute : p.toList.head? = some '/')
    (hwrites : Uri.Writes p.toList e.toList) :
    rootPath (.text ("file://" ++ e)) = .ok (Path.ofString p) ∧
      rootPath (.text ("file://localhost" ++ e)) = .ok (Path.ofString p) ∧
      ∀ (h : Host) (scratchFile text : String) (options : List (Setting × String))
        (root : Path), h.Regular → h.resolve (Path.ofString text) = .ok root →
        CommandLine.handshake h scratchFile text none options =
          CommandLine.handshake h scratchFile text (some (Uri.ofPath root)) options ∧
        rootPath (.text (Uri.ofPath root)) = .ok root := by
  have hread {authority : List Char} (hauthority : authority = [] ∨ authority = "localhost".toList)
      {text : String} (htext : text.toList = "file://".toList ++ (authority ++ e.toList)) :
      rootPath (.text text) = .ok (Path.ofString p) := by
    have hne : Text.Wide.plain text ≠ "" := by
      rintro ⟨⟩
      cases htext
    rw [rootPath_text hne, ← String.ofList_toList (s := text), htext,
      Uri.toPath_of_writes habsolute hwrites hauthority]
    rfl
  refine ⟨hread (.inl rfl) ?_, hread (.inr rfl) ?_,
    fun h scratchFile text options root hh hroot => ⟨?_, ?_⟩⟩
  · rw [String.toList_append, List.nil_append]
  · rw [String.toList_append]
    rfl
  · simp only [CommandLine.handshake, hroot, ofPathResult, pure_bind]
  · have hspelled : root.Spelled := Host.spelled_of_resolve hh
      (fun _ hpart => (Path.isPart_of_mem_ofString hpart).noSlash) hroot
    have hne : Text.Wide.plain (Uri.ofPath root) ≠ "" := by
      simp [Uri.ofPath]
    rw [rootPath_text hne, Uri.toPath_ofPath hspelled]
    rfl

/-- A blank, a letter of two bytes and an escape that need not be, digits in either case. -/
theorem rootPath_of_writes_mixed :
    Uri.Writes "/a b/ü;x".toList "/a%20b/%c3%BC;%78".toList ∧
      rootPath (.text "file:///a%20b/%c3%BC;%78") = .ok ⟨.root, ["a b", "ü;x"]⟩ ∧
      rootPath (.text "file://localhost/a%20b/%c3%BC;%78") = .ok ⟨.root, ["a b", "ü;x"]⟩ := by
  have hblank : List.Forall₂ Uri.Escapes (String.utf8EncodeChar ' ') ["%20".toList] :=
    .cons ⟨'2', '0', .inl rfl, .inl rfl, rfl⟩ .nil
  have hletter : List.Forall₂ Uri.Escapes (String.utf8EncodeChar 'ü')
      ["%c3".toList, "%BC".toList] :=
    .cons ⟨'c', '3', .inl rfl, .inl rfl, rfl⟩ (.cons ⟨'B', 'C', .inr rfl, .inr rfl, rfl⟩ .nil)
  have hplain : List.Forall₂ Uri.Escapes (String.utf8EncodeChar 'x') ["%78".toList] :=
    .cons ⟨'7', '8', .inl rfl, .inl rfl, rfl⟩ .nil
  have hwrites : Uri.Writes "/a b/ü;x".toList "/a%20b/%c3%BC;%78".toList :=
    .slash (.plain rfl (.escaped (by decide) hblank (.plain rfl (.slash
      (.escaped (by decide) hletter (.plain rfl (.escaped (by decide) hplain .done)))))))
  have hpath : Path.ofString "/a b/ü;x" = ⟨.root, ["a b", "ü;x"]⟩ := by decide
  obtain ⟨hnone, hlocal, -⟩ := rootPath_of_writes (by decide) hwrites
  rw [← hpath]
  exact ⟨hwrites, hnone, hlocal⟩

end Handshake

end PascalWorkspace
