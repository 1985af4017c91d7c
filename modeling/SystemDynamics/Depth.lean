/-!
# Depth

A text can nest as deeply as it is long, and what reads it calls itself for each construct within
another. The host lets only so many calls be open at once; the next one fails. Whatever reads nested
texts therefore takes the number of calls that it may still open.

How many calls are open where a text is read is the host's affair. These are the numbers that the
programs here run with; what is proved about a reader holds for every number.
-/

namespace SystemDynamics.Depth

/-- The most calls that the host lets be open at once. -/
def limit : Nat := 1000

/-- The calls that are left to the rules of the expression parser. The others lead to the first
rule, or look at a token for the last one. -/
def standard : Nat := limit - 10

/-- The calls that the parser opens beside its rules, and that are free again when a tree is
resolved: two lead to the first rule, and one looks at a token. -/
def besideRules : Nat := 3

/-- The levels of a literal that are built within each other: three for each call that may be open,
but for the hundred that are taken where the literals of a tag are read. -/
def levels : Nat := 3 * limit - 100

end SystemDynamics.Depth
