import PascalWorkspace.Path.Basic

/-! Which authorities of a URI are well formed. A bracketed host has to be a version six or a future
address; a host outside ASCII may hold no character that stands for a delimiter. -/
namespace PascalWorkspace.Uri

def isHexDigit (c : Char) : Bool :=
  c.isDigit || ('a' ≤ c && c ≤ 'f') || ('A' ≤ c && c ≤ 'F')

/-- One number of a dotted address: no leading zero, at most 255. -/
def isOctet (cs : List Char) : Bool :=
  !cs.isEmpty && cs.length ≤ 3 && cs.all Char.isDigit && (cs.length = 1 || cs.head? ≠ some '0')
    && cs.foldl (fun n c => n * 10 + (c.toNat - '0'.toNat)) 0 ≤ 255

def isDottedAddress (cs : List Char) : Bool :=
  let octets := Path.splitChars '.' cs
  octets.length = 4 && octets.all isOctet

def isGroup (cs : List Char) : Bool := !cs.isEmpty && cs.length ≤ 4 && cs.all isHexDigit

/-- A dotted tail counts as two groups. -/
def expandDottedTail (groups : List (List Char)) : Option (List (List Char)) :=
  match groups.getLast? with
  | some tail =>
    if tail.contains '.' then
      if isDottedAddress tail then some (groups.dropLast ++ [['0'], ['0']]) else none
    else some groups
  | none => none

/-- The groups of an address are complete, or a double colon stands for at least one of them. -/
def areGroups (groups : List (List Char)) : Bool :=
  let gaps := (List.range groups.length).filter fun i =>
    0 < i && i + 1 < groups.length && groups[i]? = some []
  match gaps with
  | [] => groups.length = 8 && groups.all isGroup
  | [gap] =>
    let before := groups.take gap
    let after := groups.drop (gap + 1)
    let before := if before.head? = some [] then before.tail else before
    let after := if after.getLast? = some [] then after.dropLast else after
    (groups.head? ≠ some [] || before.isEmpty) && (groups.getLast? ≠ some [] || after.isEmpty)
      && before.length + after.length < 8 && before.all isGroup && after.all isGroup
  | _ => false

/-- A zone may follow a percent sign. -/
def dropZone (cs : List Char) : Option (List Char) :=
  match Path.splitChars '%' cs with
  | [address] => some address
  | [address, zone] => if zone.isEmpty then none else some address
  | _ => none

def isVersionSix (cs : List Char) : Bool :=
  if cs.contains '/' then false
  else match dropZone cs with
    | none => false
    | some address =>
      let groups := Path.splitChars ':' address
      if groups.length < 3 then false
      else match expandDottedTail groups with
        | some groups => groups.length ≤ 9 && areGroups groups
        | none => false

def isFutureAddress (cs : List Char) : Bool :=
  let version := cs.takeWhile isHexDigit
  match cs.dropWhile isHexDigit with
  | '.' :: rest => !version.isEmpty && !rest.isEmpty
  | _ => false

def isBracketedHost : List Char → Bool
  | 'v' :: rest => isFutureAddress rest
  | cs => isVersionSix cs

/-- Characters whose compatibility form holds one of the delimiters of an authority. -/
def hiddenDelimiters : List Nat := [
  0x2047, 0x2048, 0x2049, 0x2100, 0x2101, 0x2105, 0x2106, 0x2A74, 0xFE13, 0xFE16, 0xFE55, 0xFE56,
  0xFE5F, 0xFE6B, 0xFF03, 0xFF0F, 0xFF1A, 0xFF1F, 0xFF20]

def isAuthority (cs : List Char) : Bool :=
  let bracketed := ((cs.dropWhile (· ≠ '[')).drop 1).takeWhile (· ≠ ']')
  cs.contains '[' == cs.contains ']' && (!cs.contains '[' || isBracketedHost bracketed)
    && !cs.any (hiddenDelimiters.contains ·.toNat)

end PascalWorkspace.Uri
