import AsmExplorer.Text.Utf8

/-!
# Octets as characters

Programs exchange octets, and scripts are read octet by octet. In such a text each character stands
for one octet, so a character of other texts is one to four characters here.
-/

namespace AsmExplorer.Octets

def ofBytes (bytes : Bytes) : Text :=
  bytes.map fun b => Char.ofNat b.toNat

def toBytes (t : Text) : Bytes :=
  t.map fun c => UInt8.ofNat c.toNat

def ofText (t : Text) : Text :=
  ofBytes (Utf8.encode t)

def toText (t : Text) : Text :=
  Utf8.decodeLossy (toBytes t)

end AsmExplorer.Octets
