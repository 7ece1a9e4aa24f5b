import Ragas.Json
import Ragas.Pydantic
import Ragas.Cost
import Ragas.Gateway
import Ragas.JsonLoad
import Ragas.Faithfulness
import Ragas.ContextRecall
import Ragas.EvalChain
