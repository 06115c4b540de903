import RepoRouting.Unicode.Case
/-!
# Stored passwords

A stored password is *encrypted* when it is more than two bytes long and enclosed in
braces. A decryptor turns a stored password into the one to use, or refuses with a
reason. Any function does; four are named:

* `plaintext` returns a password as stored, and refuses an encrypted one: no master
  password is configured;
* `rot13` rotates ASCII letters by thirteen places;
* `upper` writes the password in Unicode uppercase;
* `broken` refuses every password: the security settings cannot be read.
-/

namespace RepoRouting

/-- Whether a stored password is encrypted: more than two bytes, in braces. -/
def isEncrypted (s : String) : Bool :=
  s.utf8ByteSize > 2 && s.startsWith "\x7b" && s.endsWith "\x7d"

/-- How stored passwords are made usable: the usable password, or the reason it cannot be
had. -/
structure Decryptor where
  decrypt : String → Except String String

/-- Rotates an ASCII letter by thirteen places. -/
def rot13Char (c : Char) : Char :=
  if 'a' ≤ c && c ≤ 'z' then Char.ofNat ((c.toNat - 97 + 13) % 26 + 97)
  else if 'A' ≤ c && c ≤ 'Z' then Char.ofNat ((c.toNat - 65 + 13) % 26 + 65)
  else c

namespace Decryptor

/-- Passwords as stored; an encrypted one is refused, as no master password is configured. -/
def plaintext : Decryptor :=
  ⟨fun s => if isEncrypted s then .error "no master password is configured" else .ok s⟩

/-- ASCII letters rotated by thirteen places. -/
def rot13 : Decryptor := ⟨fun s => .ok (s.map rot13Char)⟩

/-- Passwords in Unicode uppercase. -/
def upper : Decryptor := ⟨fun s => .ok (Unicode.upper s)⟩

/-- Every password refused: the security settings cannot be read. -/
def broken : Decryptor := ⟨fun _ => .error "security settings unreadable"⟩

end Decryptor

/-- The words of a refused decryption. -/
def decryptFailure (reason : String) : String :=
  "Unable to decrypt password: " ++ reason

end RepoRouting
