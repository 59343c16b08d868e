/-!
# The bounds of registers

How many values registers of 32 and of 64 bits have, as plain numbers.
-/

namespace HostAgent.Word

/-- So many values has a register of 32 bits. -/
def size32 : Nat := 4294967296

/-- So many values has a register of 64 bits. -/
def size64 : Nat := 18446744073709551616

/-- A signed register of 64 bits reaches from this much below zero to just below this much. -/
def half64 : Nat := 9223372036854775808

end HostAgent.Word
