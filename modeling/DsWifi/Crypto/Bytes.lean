import DsWifi.Infra.BigEndian

/-!
# Bytes of mbedtls

The macros of `mbedtls/library/alignment.h` and `mbedtls_xor` (`mbedtls/library/common.h`).
-/

namespace Wifi

open Infra

/-- `MBEDTLS_PUT_UINT32_BE`. -/
def putUint32Be (n : Nat) : List UInt8 := beBytes 4 n

/-- `MBEDTLS_GET_UINT32_BE`. -/
def getUint32Be (bytes : List UInt8) : Nat := beNumber bytes

/-- `mbedtls_xor`. -/
def xorBytes (a b : List UInt8) : List UInt8 := List.zipWith (· ^^^ ·) a b

theorem length_putUint32Be (n : Nat) : (putUint32Be n).length = 4 := rfl

theorem getUint32Be_putUint32Be {n : Nat} (h : n < 2 ^ 32) : getUint32Be (putUint32Be n) = n :=
  beNumber_beBytes h

theorem putUint32Be_getUint32Be {bytes : List UInt8} (h : bytes.length = 4) :
    putUint32Be (getUint32Be bytes) = bytes := by
  have hback := beBytes_beNumber bytes
  rwa [h] at hback

theorem getUint32Be_lt {bytes : List UInt8} (h : bytes.length = 4) :
    getUint32Be bytes < 2 ^ 32 := by
  have hlt := beNumber_lt bytes
  rwa [h] at hlt

theorem length_xorBytes (a b : List UInt8) : (xorBytes a b).length = min a.length b.length :=
  List.length_zipWith

theorem xorBytes_comm (a b : List UInt8) : xorBytes a b = xorBytes b a :=
  List.zipWith_comm_of_comm fun x y => UInt8.xor_comm x y

/-- Zeros change nothing. -/
theorem xorBytes_zeros (a : List UInt8) : xorBytes (List.replicate a.length 0) a = a := by
  induction a with
  | nil => rfl
  | cons b a ih =>
    rw [List.length_cons, List.replicate_succ, xorBytes, List.zipWith_cons_cons, UInt8.zero_xor]
    exact congrArg (b :: ·) ih

end Wifi
