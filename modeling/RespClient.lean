import RespClient.Proofs.AtMostOnce
import RespClient.Proofs.Costs
import RespClient.Proofs.Countdowns
import RespClient.Proofs.Depths
import RespClient.Proofs.HashFields
import RespClient.Proofs.Leftovers
import RespClient.Proofs.Lifecycle
import RespClient.Proofs.Lifetimes
import RespClient.Proofs.Refinement
import RespClient.Proofs.Renderings
import RespClient.Proofs.Spellings
