import Masquerade.Address.Reader
import Masquerade.Text.Blank

/-!
# Name service of the host

What the host's configuration file for name lookup gives: a name server for
queries that guests send to the gateway, and a search domain.  A file is read line
by line, and most lines do not matter.
-/

set_option autoImplicit false

namespace Masquerade

structure NameService where
  nameserver : Option Ipv4Address
  domain : Option String
  deriving DecidableEq, Repr

namespace NameService

/-- The first two words of a line, unless it is a comment. -/
def leadingWords (line : List Char) : Option (List Char × List Char) :=
  match Text.trim line with
  | '#' :: _ => none
  | ';' :: _ => none
  | content =>
    match Text.words content with
    | keyword :: argument :: _ => some (keyword, argument)
    | _ => none

structure Findings where
  nameserver : Option Ipv4Address
  domain : Option String
  search : Option String
  deriving DecidableEq, Repr

/-- Only the first line of a kind counts.  A name server that is no short address is passed
over. -/
def Findings.read (found : Findings) (line : List Char) : Findings :=
  match leadingWords line with
  | none => found
  | some (keyword, argument) =>
    if keyword = "nameserver".toList ∧ found.nameserver.isNone then
      match Address.ipv4? argument with
      | some address => { found with nameserver := some address }
      | none => found
    else if keyword = "domain".toList ∧ found.domain.isNone then
      { found with domain := some (String.ofList argument) }
    else if keyword = "search".toList ∧ found.search.isNone then
      { found with search := some (String.ofList argument) }
    else found

/-- A search entry stands in for a domain. -/
def parse (text : String) : NameService :=
  let found := (Text.lines text.toList).foldl Findings.read ⟨none, none, none⟩
  { nameserver := found.nameserver
    domain := if found.domain.isNone then found.search else found.domain }

/-- What a file gives that may be missing; one that is no UTF-8 text gives
nothing. -/
def load (contents : Option Bytes) : NameService :=
  match contents.bind fun bytes => String.fromUTF8? (ByteArray.mk bytes.toArray) with
  | none => ⟨none, none⟩
  | some text => parse text

def standardPath : String := "/etc/resolv.conf"

end NameService

end Masquerade
