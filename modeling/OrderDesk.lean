import OrderDesk.Desk.Operation
import OrderDesk.Logging
import OrderDesk.Order.Columns
import OrderDesk.Payload.Json
import OrderDesk.Store.Effect
import OrderDesk.Proofs.Agreeing
import OrderDesk.Proofs.Booking
import OrderDesk.Proofs.Charges
import OrderDesk.Proofs.Connecting
import OrderDesk.Proofs.Depth
import OrderDesk.Proofs.Fills
import OrderDesk.Proofs.Flooring
import OrderDesk.Proofs.Isolation
import OrderDesk.Proofs.Life
import OrderDesk.Proofs.Loading
import OrderDesk.Proofs.Measuring
import OrderDesk.Proofs.Naming
import OrderDesk.Proofs.Offsetting
import OrderDesk.Proofs.Position
import OrderDesk.Proofs.Rates
import OrderDesk.Proofs.Reaching
import OrderDesk.Proofs.Reflecting
import OrderDesk.Proofs.Retiring
import OrderDesk.Proofs.Spelling
import OrderDesk.Proofs.Verdict
