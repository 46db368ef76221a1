import Pledge.Contract.Solvency
import Pledge.Contract.Exclusion
import Pledge.Contract.Exits
import Pledge.Contract.Settlement
import Pledge.Contract.Refusal
import Pledge.Contract.Principal
import Pledge.Contract.Payouts
import Pledge.Contract.Collateral
import Pledge.Contract.Interest
import Pledge.Contract.Window
import Pledge.Contract.ZeroLoan
import Pledge.Contract.Sale
import Pledge.Contract.Pause
import Pledge.Contract.Governance
import Pledge.Contract.Allowance
import Pledge.Contract.Quotes
import Pledge.Contract.Stranded
import Pledge.Protocol.ClaimTokens
import Pledge.Protocol.Prices
import Pledge.MultiSig.Client
import Pledge.MultiSig.Execution
import Pledge.MultiSig.Seats
import Pledge.Backend.Display
import Pledge.Backend.TokenPrices
import Pledge.Backend.Restart
import Pledge.Api.Pages
import Pledge.Api.PriceStream
import Pledge.Api.Sessions
import Pledge.FrontEnd.CoinPool
