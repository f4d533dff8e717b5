/-!
# Texts of octets

Programs pass octets around, whatever they spell. An octet is held as the character with its
number, so that scripts and their values are lists of characters like other texts.
-/

namespace BuoyGateway.Text

def ofOctets (octets : List UInt8) : List Char := octets.map (fun b => Char.ofNat b.toNat)

def toOctets (s : List Char) : List UInt8 := s.map (fun c => UInt8.ofNat c.toNat)

end BuoyGateway.Text
