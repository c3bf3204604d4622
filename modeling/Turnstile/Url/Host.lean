import Turnstile.Text.Lowercase
import Turnstile.Text.Percent
import Turnstile.Url.Address
import Turnstile.Url.Punycode

/-!
The host of a URL in its canonical spelling. Schemes of the web know domains and addresses; under any
other scheme a host is kept as it stands. The mapping of international domains is made in part only.
-/

namespace Turnstile.Url

/-- Full stops and Latin letters of other widths stand for their plain forms. -/
def plainForm (c : Char) : Char :=
  if c.toNat = 0x3002 ∨ c.toNat = 0xFF61 then '.'
  else if 0xFF01 ≤ c.toNat ∧ c.toNat ≤ 0xFF5E then Char.ofNat (c.toNat - 0xFEE0)
  else c

/-- Characters without any meaning in a domain. -/
def isIgnorable (c : Char) : Bool :=
  [0xAD, 0x200B, 0x2060, 0xFEFF].contains c.toNat || decide (0xFE00 ≤ c.toNat ∧ c.toNat ≤ 0xFE0F)

def asciiLabel (label : List Char) : List Char :=
  if label.all (·.toNat < 128) then label
  else 'x' :: 'n' :: '-' :: '-' :: Punycode.encode label

def asciiDomain (s : String) : List Char :=
  let plain := (s.toList.filter (!isIgnorable ·)).map plainForm
  ['.'].intercalate (((Text.lowercase (String.ofList plain)).toList.splitOn '.').map asciiLabel)

def bannedInHost : List Char :=
  [' ', '#', '/', ':', '<', '>', '?', '@', '[', '\\', ']', '^', '|', '\x00', '\t', '\n', '\r']

def isBannedInDomain (c : Char) : Bool :=
  Percent.isControl c || ['"', '%', '\x60', '{', '}'].contains c || bannedInHost.contains c

def domain? (s : List Char) : Option (List Char) := do
  let domain := asciiDomain (← Percent.decode? (String.ofList s))
  if domain = [] ∨ domain.any isBannedInDomain then none
  else if Ipv4.claimed domain then (Ipv4.address? domain).map Ipv4.text
  else some domain

def opaqueHost? (s : List Char) : Option (List Char) :=
  if s.any bannedInHost.contains then none else some (Percent.encode [] s)

/-- A host under a scheme of the web or any other. -/
def host? (web : Bool) (s : List Char) : Option (List Char) :=
  match s with
  | '[' :: rest =>
    if rest.getLast? = some ']' then
      (Ipv6.address? rest.dropLast).map fun groups => '[' :: Ipv6.text groups ++ [']']
    else none
  | _ => if web then domain? s else opaqueHost? s

end Turnstile.Url
