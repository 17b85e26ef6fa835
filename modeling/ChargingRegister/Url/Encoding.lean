import ChargingRegister.Json.Reader
import ChargingRegister.Text.Parts
import ChargingRegister.Text.Utf8

/-!
# Percent signs in URLs

A percent sign and two hexadecimal digits write one byte, whatever it is; everything else stands
for itself. Parameters are names and values joined by ampersands, in which a plus sign writes a
blank and bytes that are no text are replaced.
-/
namespace ChargingRegister.Url

def percentDecoded : List Char → List UInt8
  | '%' :: a :: b :: cs =>
    match Json.hexValue? a, Json.hexValue? b with
    | some x, some y => UInt8.ofNat (x * 16 + y) :: percentDecoded cs
    | _, _ => 0x25 :: percentDecoded (a :: b :: cs)
  | c :: cs => String.utf8EncodeChar c ++ percentDecoded cs
  | [] => []

/-- What stands before the first occurrence of a mark, and what follows it. -/
def cut (mark : Char) (cs : List Char) : List Char × List Char :=
  (cs.takeWhile (· != mark), (cs.dropWhile (· != mark)).drop 1)

def formDecoded (cs : List Char) : String :=
  String.ofList (Utf8.decodeLossy
    (percentDecoded (cs.map fun c => if c == '+' then ' ' else c)))

def parameters (cs : List Char) : List (String × String) :=
  ((Text.split '&' cs).filter (!·.isEmpty)).map fun part =>
    (formDecoded (cut '=' part).1, formDecoded (cut '=' part).2)

end ChargingRegister.Url
