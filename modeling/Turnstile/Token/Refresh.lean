import Turnstile.Base64
import Turnstile.Digest.Sha256

/-!
Refresh tokens: 32 random bytes in unpadded base64url. Only the digest of the text is ever stored.
-/

namespace Turnstile.Token.Refresh

def randomLength : Nat := 32

def ofBytes (b : Bytes) : String := Base64.encodeText .urlSafe b

def digest (token : String) : Bytes := Sha256.digest (.ofText token)

end Turnstile.Token.Refresh
