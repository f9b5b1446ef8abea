import Mathlib.Analysis.Convex.Jensen
import Mathlib.Analysis.Convex.SpecificFunctions.Basic
import SecretScan.Proofs.Alphabet
import SecretScan.Proofs.Frequencies
import SecretScan.Proofs.Verdict

/-!
# How much entropy a text can have

A text with `k` distinct characters has at most `logb 2 k` bits a character, by strict concavity of
the logarithm (`Histogram.bits_le_logb_card`), and this much only if they all come equally often. It
has none only if there is one character. The program compares natural numbers instead of
logarithms, and for these the same says

```
∏ c, count c ^ count c  ≤  n ^ n  ≤  k ^ n * ∏ c, count c ^ count c
```

The alphabets bound `k` (`Alphabet.card_le_variety`): there are 22 hexadecimal digits of either case
and 65 signs in each form of base64. A threshold beyond the logarithm of that is never reached.
-/

namespace SecretScan

/-! ### Distinct characters -/

namespace Histogram

variable {text : List Char} (hlength : text.length < counterLimit)

include hlength

end Histogram

/-! ### The signs of an alphabet -/

namespace Alphabet

open Tally

end Alphabet

/-! ### Reports -/

end SecretScan
