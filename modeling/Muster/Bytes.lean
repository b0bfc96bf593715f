/-!
# Equality of byte sequences

Two sequences of bytes are equal when their bytes are, which can be decided.
-/

set_option autoImplicit false

namespace Muster

/-- Equality of byte sequences is that of their bytes. -/
instance decidableEqBytes : DecidableEq ByteArray
  | ⟨a⟩, ⟨b⟩ =>
    if h : a = b then isTrue (congrArg ByteArray.mk h)
    else isFalse fun e => h (congrArg ByteArray.data e)

end Muster
